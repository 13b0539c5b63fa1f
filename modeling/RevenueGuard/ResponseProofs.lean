import RevenueGuard.LlmResponse

/-!
The JSON object in an answer of the language model.  Stripping and the code fence leave an
object where it is, so it is what stands between the outermost braces; but the whole text is
decoded first, and only a `JSONDecodeError` of that is caught.
-/

namespace RevenueGuard.ResponseProofs

open Library Spans LlmResponse

variable {loads : List Char → Decoded} {content : Content} {s text group : List Char} {payload : Json} {o : Dict}

/-! ## What is taken off the text -/

theorem embedded_strip (delimited : Delimited '{' '}' s) (embedded : Embedded '{' '}' s text) :
    Embedded '{' '}' s (stripText text) :=
  embedded_drop_back delimited (embedded_drop_while delimited embedded (by decide)) (by decide)

theorem drop_json_front (text : List Char) : ∃ removed, text = removed ++ dropJson text ∧ '{' ∉ removed := by
  unfold dropJson
  split
  · rename_i j s o n rest
    split
    · rename_i letters
      refine ⟨[j, s, o, n], rfl, fun listed => ?_⟩
      simp only [Bool.and_eq_true] at letters
      obtain ⟨⟨⟨first, second⟩, third⟩, fourth⟩ := letters
      simp only [List.mem_cons, List.not_mem_nil, or_false] at listed
      rcases listed with rfl | rfl | rfl | rfl
      · exact absurd first (by decide)
      · exact absurd second (by decide)
      · exact absurd third (by decide)
      · exact absurd fourth (by decide)
    · exact ⟨[], rfl, List.not_mem_nil⟩
  · exact ⟨[], rfl, List.not_mem_nil⟩

/-- A text in a fence is the fence, a text and the fence. -/
theorem fenced_shape (fenced : fencedGroup text = some group) :
    ∃ inner, text = fence ++ (inner ++ fence) ∧ group = stripText (dropJson inner) := by
  unfold fencedGroup at fenced
  split at fenced
  · rename_i fences
    simp only [Bool.and_eq_true, decide_eq_true_eq, List.isPrefixOf_iff_prefix, List.isSuffixOf_iff_suffix] at fences
    obtain ⟨⟨⟨rest, rfl⟩, long⟩, closed⟩ := fences
    have three : fence.length = 3 := rfl
    rw [List.length_append, three] at long
    obtain ⟨inner, rfl⟩ : fence <:+ rest :=
      List.suffix_of_suffix_length_le closed (List.suffix_append _ _) (by omega)
    refine ⟨inner, rfl, ?_⟩
    have between :
        ((fence ++ (inner ++ fence)).drop 3).take ((fence ++ (inner ++ fence)).length - 6) = inner := by
      rw [List.drop_left' three]
      exact List.take_left' (by simp only [List.length_append, three]; omega)
    rw [between] at fenced
    exact (Option.some.inj fenced).symm
  · cases fenced

theorem embedded_unfenced (delimited : Delimited '{' '}' s) (embedded : Embedded '{' '}' s text) :
    Embedded '{' '}' s (unfenced text) := by
  have stripped := embedded_strip delimited embedded
  unfold unfenced
  split
  · rename_i group fenced
    obtain ⟨inner, shape, rfl⟩ := fenced_shape fenced
    rw [shape] at stripped
    have within := embedded_of_back delimited (embedded_of_front delimited stripped (by decide)) (by decide)
    obtain ⟨removed, shape, plain⟩ := drop_json_front inner
    rw [shape] at within
    exact embedded_strip delimited (embedded_strip delimited (embedded_of_front delimited within plain))
  · exact stripped

/-! ## The object -/

/-- Every answer that is accepted is an object. -/
theorem parsed_object (parsed : parseJsonResponse loads content = .ok payload) : ∃ o, payload = .obj o := by
  have required {value : Json} (accepted : requireObject value = .ok payload) : ∃ o, payload = .obj o := by
    cases value with
    | obj fields => exact ⟨fields, (Except.ok.inj accepted).symm⟩
    | _ => cases accepted
  unfold parseJsonResponse at parsed
  split at parsed
  · exact required parsed
  · cases parsed
  · split at parsed
    · cases parsed
    · split at parsed
      · exact required parsed
      · cases parsed
      · cases parsed

/-- An answer that holds one object gives it, unless decoding the whole of it raises something
else than `JSONDecodeError`; and no answer gives anything but an object. -/
theorem object_recovered_iff {p q : List Char} (said : responseText content = p ++ s ++ q)
    (opens : s.head? = some '{') (closes : s.getLast? = some '}') (decodes : loads s = .value (.obj o))
    (before : '{' ∉ p) (after : '}' ∉ q)
    (whole : ∀ payload, loads (unfenced (responseText content)) = .value payload → payload = .obj o) :
    (parseJsonResponse loads content = .ok (.obj o) ↔
        ∀ exc, loads (unfenced (responseText content)) ≠ .raised exc) ∧
      ∀ content payload, parseJsonResponse loads content = .ok payload → ∃ o, payload = .obj o := by
  refine ⟨?_, fun content payload parsed => parsed_object parsed⟩
  have delimited : Delimited '{' '}' s := ⟨opens, closes, by decide⟩
  have found : outermost '{' '}' (unfenced (responseText content)) = some s :=
    outermost_embedded delimited (embedded_unfenced delimited ⟨p, q, said, before, after⟩)
  unfold parseJsonResponse
  cases decoded : loads (unfenced (responseText content)) with
  | value payload =>
    rw [whole payload decoded]
    simp [requireObject]
  | raised exc => simp
  | decodeError =>
    simp only [found, decodes, requireObject, ne_eq, reduceCtorEq, not_false_eq_true, implies_true]

/-! ## An answer in prose, and one with a long number -/

/-- `json.loads` on the texts of the samples. -/
def sampleLoads (text : List Char) : Decoded :=
  if 4300 < (text.takeWhile Char.isDigit).length then
    .raised "Exceeds the limit (4300 digits) for integer string conversion"
  else if text = "{}".toList then .value (.obj [])
  else .decodeError

theorem object_recovered_iff_prose :
    (parseJsonResponse sampleLoads (.text "Sure: {}.".toList) = .ok (.obj []) ↔
        ∀ exc, sampleLoads (unfenced "Sure: {}.".toList) ≠ .raised exc) ∧
      ∀ content payload, parseJsonResponse sampleLoads content = .ok payload → ∃ o, payload = .obj o := by
  have decoded : sampleLoads (unfenced (responseText (.text "Sure: {}.".toList))) = .decodeError := rfl
  have split :
      responseText (.text "Sure: {}.".toList) = "Sure: ".toList ++ "{}".toList ++ ".".toList := by decide
  exact object_recovered_iff split rfl rfl rfl (by decide) (by decide) fun payload value => by
    cases decoded.symm.trans value

/-- So many digits and an empty object. -/
def afterDigits (n : ℕ) : List Char := List.replicate n '1' ++ "{}".toList

theorem unfenced_digits (n : ℕ) : unfenced (afterDigits (n + 1)) = afterDigits (n + 1) := by
  have stripped : stripText (afterDigits (n + 1)) = afterDigits (n + 1) := by
    have front : (afterDigits (n + 1)).dropWhile isSpace = afterDigits (n + 1) := rfl
    have reversed : (afterDigits (n + 1)).reverse = '}' :: '{' :: (List.replicate (n + 1) '1').reverse := by
      simp [afterDigits]
    have back : ('}' :: '{' :: (List.replicate (n + 1) '1').reverse).dropWhile isSpace =
        '}' :: '{' :: (List.replicate (n + 1) '1').reverse := rfl
    rw [stripText, trim, front, reversed, back, ← reversed, List.reverse_reverse]
  have plain : fencedGroup (afterDigits (n + 1)) = none := rfl
  rw [unfenced, stripped, plain]

theorem digits_raise {n : ℕ} (long : 4300 < n) :
    sampleLoads (afterDigits n) = .raised "Exceeds the limit (4300 digits) for integer string conversion" := by
  have run : (afterDigits n).takeWhile Char.isDigit = List.replicate n '1' := by
    rw [afterDigits, List.takeWhile_append_of_pos fun c listed => by rw [List.eq_of_mem_replicate listed]; rfl]
    exact List.append_nil _
  rw [sampleLoads, run, List.length_replicate, if_pos long]

/-- An object after more digits than an integer may have is not recovered. -/
theorem object_lost : sampleLoads "{}".toList = .value (.obj []) ∧
    '{' ∉ List.replicate 4301 '1' ∧
    (∀ payload, sampleLoads (unfenced (List.replicate 4301 '1' ++ "{}".toList)) ≠ .value payload) ∧
    parseJsonResponse sampleLoads (.text (List.replicate 4301 '1' ++ "{}".toList)) =
      .error "Exceeds the limit (4300 digits) for integer string conversion" := by
  have raised : sampleLoads (unfenced (List.replicate 4301 '1' ++ "{}".toList)) =
      .raised "Exceeds the limit (4300 digits) for integer string conversion" := by
    rw [← afterDigits, unfenced_digits 4300]
    exact digits_raise (by decide)
  refine ⟨rfl, fun listed => absurd (List.eq_of_mem_replicate listed) (by decide), fun payload value => ?_, ?_⟩
  · cases raised.symm.trans value
  · simp only [parseJsonResponse, responseText, raised]

end RevenueGuard.ResponseProofs
