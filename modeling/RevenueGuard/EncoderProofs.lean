import Mathlib.Data.List.Dedup
import Mathlib.Data.String.Basic
import RevenueGuard.FeatureProofs
import RevenueGuard.Library.StableSort

/-!
The label encoders between training and serving.  Both take the bank of an event as it is
written; the reason is fitted as it is written and looked up in lower case, so that a reason
with a letter in upper case is unknown to the encoders that were fitted on it.
-/

namespace RevenueGuard.EncoderProofs

open Library Library.Raises Library.StableSort FeatureEngineering FeatureProofs

variable {fit : List String → List String} {context fitted : FeatureContext} {events : List Dict}
  {event : Dict} {name label label' : String} {labels : List String}

/-- The classes of an encoder are the labels that it was fitted on. -/
def Fits (fit : List String → List String) : Prop := ∀ labels label, label ∈ fit labels ↔ label ∈ labels

/-! ## Encoding -/

/-- The index of a label among the classes of an encoder. -/
def classIndex (context : FeatureContext) (name label : String) : ℕ :=
  ((context.labelClasses name).getD []).idxOf label

/-- The label that an index stands for. -/
def labelAt (context : FeatureContext) (name : String) (index : ℕ) : Option String :=
  (context.labelClasses name).bind fun classes => classes[index]?

section Fitted

variable (fits : Fits fit) (encoder : context.labelClasses name = some (fit (labels ++ [unknownLabel])))
include fits encoder

/-- A label that was fitted is encoded as itself, and any other as the unknown one. -/
theorem encode_label_eq (value : Json) : encodeLabel context name value = .ok (classIndex context name
    (if (value.orElse (.str unknownLabel)).pyStr ∈ labels then (value.orElse (.str unknownLabel)).pyStr
      else unknownLabel)) := by
  have unknown : unknownLabel ∈ fit (labels ++ [unknownLabel]) := (fits _ _).mpr (by simp)
  rw [encodeLabel, encoder, classIndex, encoder]
  dsimp only
  generalize (value.orElse (.str unknownLabel)).pyStr = label
  by_cases listed : label ∈ labels
  · have known : label ∈ fit (labels ++ [unknownLabel]) := (fits _ _).mpr (List.mem_append_left _ listed)
    rw [if_pos listed, if_pos known, if_pos known]
    rfl
  · have chosen : (if label ∈ fit (labels ++ [unknownLabel]) then label else unknownLabel) = unknownLabel := by
      split
      · rename_i known
        exact List.mem_singleton.mp ((List.mem_append.mp ((fits _ _).mp known)).resolve_left listed)
      · rfl
    rw [if_neg listed, chosen, if_pos unknown]
    rfl

/-- Two labels have one index only if they are one label. -/
theorem class_index_inj (listed : label ∈ labels ∨ label = unknownLabel) :
    classIndex context name label = classIndex context name label' ↔ label = label' := by
  have known : label ∈ fit (labels ++ [unknownLabel]) := by
    rw [fits, List.mem_append, List.mem_singleton]
    exact listed
  rw [classIndex, classIndex, encoder]
  exact List.idxOf_inj known

/-- The index of a label that was fitted stands for it. -/
theorem label_at_class_index (listed : label ∈ labels) :
    labelAt context name (classIndex context name label) = some label := by
  have known : label ∈ fit (labels ++ [unknownLabel]) := (fits _ _).mpr (List.mem_append_left _ listed)
  rw [labelAt, classIndex, encoder]
  exact List.getElem?_idxOf known

end Fitted

/-- The encoders after a fit, with the classes of each. -/
structure FittedOn (fit : List String → List String) (events : List Dict) (context fitted : FeatureContext) :
    Prop where
  bank : fitted.labelClasses "bank" = some (fit (events.map bankText ++ [unknownLabel]))
  reason : fitted.labelClasses "error_reason" = some (fit (events.map reasonText ++ [unknownLabel]))
  lower : fitted.lower = context.lower

theorem fit_label_encoders_ok (fit : List String → List String) (events : List Dict)
    (context : FeatureContext) :
    ∃ fitted, fitLabelEncoders fit events context = .ok fitted ∧ FittedOn fit events context fitted :=
  ⟨_, rfl, rfl, rfl, rfl⟩

/-! ## Labels of an event -/

/-- The event names a bank. -/
def BankGiven (event : Dict) : Prop := ((metadataOf event).get "bank_name").truthy = true

/-- The event has a reason. -/
def ReasonGiven (event : Dict) : Prop := ((event.get "error_reason").orElse (event.get "reason")).truthy = true

/-- The label that the encoder of the reasons is asked for. -/
def servedReason (context : FeatureContext) (event : Dict) : String :=
  ((Json.str (context.lower (reasonText event))).orElse (.str unknownLabel)).pyStr

theorem reason_text_ne_empty (event : Dict) : reasonText event ≠ "" := by
  refine Json.py_str_ne_empty ?_
  rw [Json.orElse]
  split
  · assumption
  · decide

/-- A reason that is its own lower case is served as it was fitted. -/
theorem served_reason_lowered (lowered : context.lower (reasonText event) = reasonText event) :
    servedReason context event = reasonText event := by
  rw [servedReason, lowered, Json.orElse, if_pos (by simpa [Json.truthy] using reason_text_ne_empty event)]
  rfl

/-- And any other as another label. -/
theorem served_reason_apart (unknown : context.lower unknownLabel = unknownLabel)
    (served : servedReason context event = reasonText event ∨ unknownLabel = reasonText event) :
    context.lower (reasonText event) = reasonText event := by
  have spelled (same : unknownLabel = reasonText event) :
      context.lower (reasonText event) = reasonText event := by
    rw [← same, unknown]
  rcases served with served | same
  · rw [servedReason, Json.orElse] at served
    split at served
    · exact served
    · exact spelled served
  · exact spelled same

/-- The bank of a training event is encoded as itself. -/
theorem bank_encoded (fits : Fits fit) (on : FittedOn fit events context fitted) (listed : event ∈ events) :
    bankEncodedOf fitted event = .ok (classIndex fitted "bank" (bankText event)) := by
  have encoded := encode_label_eq fits on.bank ((metadataOf event).get "bank_name")
  have there : (((metadataOf event).get "bank_name").orElse (.str unknownLabel)).pyStr ∈ events.map bankText :=
    List.mem_map_of_mem listed
  rw [if_pos there] at encoded
  exact encoded

/-- A reason is encoded as what it is in lower case. -/
theorem reason_encoded (fits : Fits fit) (on : FittedOn fit events context fitted) (event : Dict) :
    errorReasonEncodedOf fitted event = .ok (classIndex fitted "error_reason"
      (if servedReason context event ∈ events.map reasonText then servedReason context event
        else unknownLabel)) := by
  rw [errorReasonEncodedOf, on.lower, encode_label_eq fits on.reason]
  rfl

/-- The labels of a training event are known in serving, and it is taken to have none only where it
has none. -/
structure Known (fitted : FeatureContext) (event : Dict) : Prop where
  bank : bankEncodedOf fitted event = .ok (classIndex fitted "bank" (bankText event))
  reason : errorReasonEncodedOf fitted event = .ok (classIndex fitted "error_reason" (reasonText event))
  bank_unknown : bankEncodedOf fitted event = .ok (classIndex fitted "bank" unknownLabel) → ¬ BankGiven event
  reason_unknown : errorReasonEncodedOf fitted event = .ok (classIndex fitted "error_reason" unknownLabel) →
    ¬ ReasonGiven event

/-- The reason is its own lower case, and neither label is written like the unknown one. -/
structure Spelled (context : FeatureContext) (event : Dict) : Prop where
  lowered : context.lower (reasonText event) = reasonText event
  bank : BankGiven event → bankText event ≠ unknownLabel
  reason : ReasonGiven event → reasonText event ≠ unknownLabel

theorem known_iff (fits : Fits fit) (unknown : context.lower unknownLabel = unknownLabel)
    (on : FittedOn fit events context fitted) (listed : event ∈ events) :
    Known fitted event ↔ Spelled context event := by
  have bank := bank_encoded fits on listed
  have bankLabel : bankText event ∈ events.map bankText := List.mem_map_of_mem listed
  have reasonLabel : reasonText event ∈ events.map reasonText := List.mem_map_of_mem listed
  constructor
  · intro known
    refine ⟨?_, fun given same => ?_, fun given same => ?_⟩
    · have encoded := Except.ok.inj ((reason_encoded fits on event).symm.trans known.reason)
      split at encoded
      · rename_i there
        exact served_reason_apart unknown (.inl ((class_index_inj fits on.reason (.inl there)).mp encoded))
      · exact served_reason_apart unknown (.inr ((class_index_inj fits on.reason (.inr rfl)).mp encoded))
    · exact known.bank_unknown (same ▸ known.bank) given
    · exact known.reason_unknown (same ▸ known.reason) given
  · intro spelled
    have reason : errorReasonEncodedOf fitted event =
        .ok (classIndex fitted "error_reason" (reasonText event)) := by
      rw [reason_encoded fits on event, served_reason_lowered spelled.lowered, if_pos reasonLabel]
    refine ⟨bank, reason, fun encoded given => ?_, fun encoded given => ?_⟩
    · have same := Except.ok.inj (bank.symm.trans encoded)
      exact spelled.bank given ((class_index_inj fits on.bank (.inl bankLabel)).mp same)
    · have same := Except.ok.inj (reason.symm.trans encoded)
      exact spelled.reason given ((class_index_inj fits on.reason (.inl reasonLabel)).mp same)

/-! ## Serving -/

/-- What serving owes the training: the labels of its events are known, and every other label is
encoded as the unknown one. -/
structure LabelsKnown (events : List Dict) (fitted : FeatureContext) : Prop where
  trained : ∀ event ∈ events, Known fitted event
  unseen_bank : ∀ event, bankText event ∉ events.map bankText →
    bankEncodedOf fitted event = .ok (classIndex fitted "bank" unknownLabel)
  unseen_reason : ∀ event, servedReason fitted event ∉ events.map reasonText →
    errorReasonEncodedOf fitted event = .ok (classIndex fitted "error_reason" unknownLabel)

/-- After a fit, the labels of the training are known and all others unknown exactly if every reason
of the training is its own lower case and no label of it is written like the unknown one. -/
theorem trained_labels_known_iff (fits : Fits fit) (unknown : context.lower unknownLabel = unknownLabel)
    (events : List Dict) : ∃ fitted, fitLabelEncoders fit events context = .ok fitted ∧
      (LabelsKnown events fitted ↔ ∀ event ∈ events, Spelled context event) ∧
      ∀ event timestamp health features, extractFeatures fitted event timestamp health = .ok features →
        bankEncodedOf fitted event = .ok features.bankEncoded ∧
          errorReasonEncodedOf fitted event = .ok features.errorReasonEncoded := by
  obtain ⟨fitted, returned, on⟩ := fit_label_encoders_ok fit events context
  refine ⟨fitted, returned, ⟨fun known event listed => ?_, fun spelled => ⟨fun event listed => ?_, ?_, ?_⟩⟩, ?_⟩
  · exact (known_iff fits unknown on listed).mp (known.trained event listed)
  · exact (known_iff fits unknown on listed).mpr (spelled event listed)
  · intro event unseen
    have encoded := encode_label_eq fits on.bank ((metadataOf event).get "bank_name")
    rw [← bankEncodedOf, ← bankText, if_neg unseen] at encoded
    exact encoded
  · intro event unseen
    have same : servedReason fitted event = servedReason context event := by
      rw [servedReason, servedReason, on.lower]
    rw [reason_encoded fits on event, if_neg (same ▸ unseen)]
  · intro event timestamp health features extracted
    have labels := extracted_features extracted
    exact ⟨labels.bank, labels.reason⟩

/-- The classes that `LabelEncoder().fit` makes: the labels in order, each once. -/
def sortedLabels (labels : List String) : List String := sortedBy id labels.dedup

theorem sorted_labels_fits : Fits sortedLabels := fun labels label => by
  rw [sortedLabels, mem_sorted_by, List.mem_dedup]

/-- A failure with this bank and this reason. -/
def labelled (bank reason : String) : Dict :=
  [("error_reason", .str reason), ("metadata", .obj [("bank_name", .str bank)])]

/-- With reasons in lower case, the labels of the training are known in serving. -/
theorem trained_labels_known_lowered : ∃ fitted,
    fitLabelEncoders sortedLabels [labelled "HDFC" "timeout", labelled "SBI" "incorrect_pin"] sampleContext =
        .ok fitted ∧
      LabelsKnown [labelled "HDFC" "timeout", labelled "SBI" "incorrect_pin"] fitted := by
  have unknown : sampleContext.lower unknownLabel = unknownLabel := by decide +kernel
  obtain ⟨fitted, returned, known, _⟩ := trained_labels_known_iff sorted_labels_fits unknown
    [labelled "HDFC" "timeout", labelled "SBI" "incorrect_pin"]
  refine ⟨fitted, returned, known.mpr fun event listed => ?_⟩
  rcases List.mem_pair.mp listed with rfl | rfl
  · exact ⟨by decide +kernel, fun _ => by decide, fun _ => by decide⟩
  · exact ⟨by decide +kernel, fun _ => by decide, fun _ => by decide⟩

/-- Labels that were seen in training are known in serving. -/
def TrainedLabelsKnown : Prop :=
  ∀ fit context events, Fits fit → context.lower unknownLabel = unknownLabel →
    ∃ fitted, fitLabelEncoders fit events context = .ok fitted ∧ LabelsKnown events fitted

/-- A timeout that the training writes with a capital letter is encoded as an unknown reason. -/
theorem capital_reason_unknown : ¬ TrainedLabelsKnown ∧ ∃ fitted,
    fitLabelEncoders sortedLabels [labelled "HDFC" "Timeout"] sampleContext = .ok fitted ∧
      fitted.labelClasses "error_reason" = some ["Timeout", unknownLabel] ∧
      errorReasonEncodedOf fitted (labelled "HDFC" "Timeout") = .ok 1 := by
  have trained :
      ∃ fitted, fitLabelEncoders sortedLabels [labelled "HDFC" "Timeout"] sampleContext = .ok fitted ∧
      fitted.labelClasses "error_reason" = some ["Timeout", unknownLabel] ∧
      errorReasonEncodedOf fitted (labelled "HDFC" "Timeout") = .ok 1 :=
    ⟨_, rfl, by decide +kernel, by decide +kernel⟩
  refine ⟨fun known => ?_, trained⟩
  obtain ⟨fitted, returned, classes, encoded⟩ := trained
  obtain ⟨again, returned', known⟩ := known sortedLabels sampleContext [labelled "HDFC" "Timeout"]
    sorted_labels_fits (by decide +kernel)
  cases Except.ok.inj (returned.symm.trans returned')
  have reason := (known.trained _ (List.mem_singleton_self _)).reason
  rw [encoded, classIndex, classes] at reason
  exact absurd (Except.ok.inj reason) (by decide +kernel)

end RevenueGuard.EncoderProofs
