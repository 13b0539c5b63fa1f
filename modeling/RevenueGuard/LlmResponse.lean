import RevenueGuard.Library.PyValue
import RevenueGuard.Library.Spans

/-!
`agents/common.py::parse_json_response`: the JSON object in the answer of a language model,
which may stand in a code fence or in prose.  What `json.loads` makes of a text is an
argument.
-/

namespace RevenueGuard.LlmResponse

open Library Spans

/-- What `json.loads` makes of a text: a value, `JSONDecodeError`, or another exception, such as
the `ValueError` for an integer of too many digits and the `RecursionError` for a text that is
nested too deeply. -/
inductive Decoded where
  | value (payload : Json)
  | decodeError
  | raised (exc : String)

/-- `getattr(response, "content", response)`: a text, a list of parts, or anything else, of which
only its `str()` matters. -/
inductive Content where
  | text (content : List Char)
  | parts (items : List Json)
  | other (shown : List Char)

/-- What a part of a list adds to the text. -/
def partText : Json → List Char
  | .str text => text.toList
  | .obj fields => if (Dict.get fields "text").truthy then (Dict.get fields "text").pyStr.toList else []
  | _ => []

/-- `response_text`. -/
def responseText : Content → List Char
  | .text content => content
  | .parts items => items.flatMap partText
  | .other shown => shown

/-- A letter of the pattern in either case; outside ASCII only the long s matches one. -/
def sameLetter (letter c : Char) : Bool := c.toLower = letter || (letter = 's' && c = '\u017F')

/-- What `(?:json)?` leaves of a text. -/
def dropJson : List Char → List Char
  | j :: s :: o :: n :: rest =>
    if sameLetter 'j' j && sameLetter 's' s && sameLetter 'o' o && sameLetter 'n' n then rest
    else j :: s :: o :: n :: rest
  | text => text

def fence : List Char := "```".toList

/-- The group of the pattern for a text in a code fence, which matches where the text starts and
ends with one.  The blanks before the group are as many as there are, and the group is as
short as it can be, so the blanks after it are too. -/
def fencedGroup (text : List Char) : Option (List Char) :=
  if fence.isPrefixOf text && decide (6 ≤ text.length) && fence.isSuffixOf text then
    some (stripText (dropJson ((text.drop 3).take (text.length - 6))))
  else none

/-- The text that is decoded first. -/
def unfenced (text : List Char) : List Char :=
  match fencedGroup (stripText text) with
  | some group => stripText group
  | none => stripText text

/-- The test of the decoded value. -/
def requireObject : Json → Except String Json
  | .obj fields => .ok (.obj fields)
  | _ => .error "LLM response must be a JSON object"

/-- `parse_json_response`. -/
def parseJsonResponse (loads : List Char → Decoded) (content : Content) : Except String Json :=
  match loads (unfenced (responseText content)) with
  | .value payload => requireObject payload
  | .raised exc => .error exc
  | .decodeError =>
    match outermost '{' '}' (unfenced (responseText content)) with
    | none => .error "LLM response did not contain a JSON object"
    | some span =>
      match loads span with
      | .value payload => requireObject payload
      | .raised exc => .error exc
      | .decodeError => .error "LLM returned invalid JSON"

end RevenueGuard.LlmResponse
