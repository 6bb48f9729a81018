/-
Records of fields that are assigned once.  Values are offered to fields one after another, up to
the first field that holds a value already; a field that the record does not have takes no value
and refuses none.  Which values were put follows from how the offers ended.
-/
import Mathlib.Data.List.Nodup
import TaskScript.Task.Fitting

namespace TaskScript

/-- The fields of tasks that are assigned once. -/
inductive FieldName where
  | modelPath
  | modelInput
  | modelOutput
  | imagePath
  | imageOutput
  | dataset
  | xTrainOutput
  | yTrainOutput
  | xTestOutput
  | yTestOutput
  | model
  | input
  | output
  | functionName
  | functionDefinition
  | functionInputs
  | functionOutputs
  | currentLayers
  | newLayers
  | newModelOutput
  | optimizer
  | loss
  | trainInput
  | trainOutput
  | filePath
  | logFilePath
  deriving DecidableEq

/-- The label by which errors name a field. -/
def FieldName.label : FieldName → String
  | modelPath => "model_path"
  | modelInput => "model_input"
  | modelOutput => "model_output"
  | imagePath => "image_path"
  | imageOutput => "image_output"
  | dataset => "dataset"
  | xTrainOutput => "x_train_output"
  | yTrainOutput => "y_train_output"
  | xTestOutput => "x_test_output"
  | yTestOutput => "y_test_output"
  | model => "model"
  | input => "input"
  | output => "output"
  | functionName => "function_name"
  | functionDefinition => "function_definition"
  | functionInputs => "function_inputs"
  | functionOutputs => "function_outputs"
  | currentLayers => "current_layers"
  | newLayers => "new_layers"
  | newModelOutput => "new_model_output"
  | optimizer => "optimizer"
  | loss => "loss"
  | trainInput => "train_input"
  | trainOutput => "train_output"
  | filePath => "file_path"
  | logFilePath => "log_file_path"

/-- What such a field holds. -/
inductive FieldValue where
  | text (text : String)
  | slot (slot : Variable)
  | slots (slots : List Variable)
  | dataset (dataset : Dataset)
  | layers (layers : List Layer)
  | optimizer (optimizer : Optimizer)
  | loss (loss : Loss)

/-- A value for a field. -/
abbrev Offer := FieldName × FieldValue

/-- The fields of a task and what is read from them. -/
abbrev Record := List (FieldName × Reading FieldValue)

namespace Record

/-- What is read from a field, if the record has it. -/
def get? (record : Record) (field : FieldName) : Option (Reading FieldValue) :=
  (record.find? (·.1 = field)).map Prod.snd

def put (record : Record) (field : FieldName) (value : FieldValue) : Record :=
  record.map fun held => if held.1 = field then (held.1, .ok value) else held

/-- Offers values to fields, up to the first field that holds one. -/
def offer (record : Record) : List Offer → Record × Except Reassigned Unit
  | [] => (record, .ok ())
  | (field, value) :: rest =>
      match record.get? field with
      | some (.ok _) => (record, .error ⟨field.label⟩)
      | _ => (record.put field value).offer rest

theorem get?_cons (held : FieldName × Reading FieldValue) (record : Record) (field : FieldName) :
    get? (held :: record) field = if held.1 = field then some held.2 else record.get? field := by
  unfold get?
  by_cases h : held.1 = field <;> simp [h]

theorem get?_put (record : Record) (field other : FieldName) (value : FieldValue) :
    (record.put field value).get? other =
      if other = field then (record.get? other).map fun _ => .ok value else record.get? other := by
  induction record with
  | nil => simp [put, get?]
  | cons held record ih =>
      have hput : put (held :: record) field value =
        (if held.1 = field then (held.1, .ok value) else held) :: put record field value := rfl
      rw [hput, get?_cons, get?_cons, ih]
      split <;> split <;> simp_all

theorem offer_cons_of_refused {record : Record} {field : FieldName} {kept : FieldValue}
    (hkept : record.get? field = some (.ok kept)) (value : FieldValue) (rest : List Offer) :
    record.offer ((field, value) :: rest) = (record, .error ⟨field.label⟩) := by
  rw [offer, hkept]

theorem offer_cons_of_taken {record : Record} {field : FieldName}
    (hfree : ∀ kept, record.get? field ≠ some (.ok kept)) (value : FieldValue) (rest : List Offer) :
    record.offer ((field, value) :: rest) = (record.put field value).offer rest := by
  rw [offer]
  split
  · exact absurd ‹_› (hfree _)
  · rfl

/-- A task without fields refuses nothing. -/
theorem offer_empty (offers : List Offer) : offer [] offers = ([], .ok ()) := by
  induction offers with
  | nil => rfl
  | cons first rest ih => exact ih

/-- What is refused is an offer to a field that holds a value. -/
theorem exists_offer_of_error {record : Record} {offers : List Offer} {error : Reassigned}
    (herror : (record.offer offers).2 = .error error) :
    ∃ offer ∈ offers, error = ⟨offer.1.label⟩ := by
  induction offers generalizing record with
  | nil => cases herror
  | cons first rest ih =>
      obtain ⟨field, value⟩ := first
      by_cases hkept : ∃ kept, record.get? field = some (.ok kept)
      · obtain ⟨kept, hkept⟩ := hkept
        rw [offer_cons_of_refused hkept] at herror
        exact ⟨(field, value), List.mem_cons_self, (Except.error.inj herror).symm⟩
      · rw [offer_cons_of_taken (not_exists.mp hkept)] at herror
        obtain ⟨offer, hoffer, heq⟩ := ih herror
        exact ⟨offer, List.mem_cons_of_mem _ hoffer, heq⟩

/-- The offers that were made: all of them, or those before the field that refused. -/
def granted (offers : List Offer) : Except Reassigned Unit → List Offer
  | .ok () => offers
  | .error error => offers.takeWhile (·.1.label ≠ error.field)

/-- The first value among the offers to a field. -/
def firstFor? (offers : List Offer) (field : FieldName) : Option FieldValue :=
  (offers.find? (·.1 = field)).map Prod.snd

/-- A field keeps what it holds, and takes a value that it is given if it holds none. -/
def settled : Option (Reading FieldValue) → Option FieldValue → Option (Reading FieldValue)
  | some (.error _), some value => some (.ok value)
  | held, _ => held

theorem firstFor?_cons (first : Offer) (rest : List Offer) (field : FieldName) :
    firstFor? (first :: rest) field =
      if first.1 = field then some first.2 else firstFor? rest field := by
  unfold firstFor?
  by_cases h : first.1 = field <;> simp [h]

theorem firstFor?_append (first second : List Offer) (field : FieldName) :
    firstFor? (first ++ second) field = (firstFor? first field).or (firstFor? second field) := by
  induction first with
  | nil => rfl
  | cons head rest ih =>
      rw [List.cons_append, firstFor?_cons, firstFor?_cons, ih]
      split <;> rfl

theorem settled_none (held : Option (Reading FieldValue)) : settled held none = held := by
  unfold settled
  split <;> simp_all

theorem settled_ok (kept : FieldValue) (value? : Option FieldValue) :
    settled (some (.ok kept)) value? = some (.ok kept) := rfl

theorem settled_unassigned {field : FieldName} {value? : Option FieldValue} {value : FieldValue} :
    settled (some (.error ⟨field.label⟩)) value? = some (.ok value) ↔ value? = some value := by
  cases value? <;> simp [settled]

theorem settled_unassigned_error {field : FieldName} {value? : Option FieldValue} :
    settled (some (.error ⟨field.label⟩)) value? = some (.error ⟨field.label⟩) ↔
      value? = none := by
  cases value? <;> simp [settled]

theorem settled_settled (held : Option (Reading FieldValue)) (first? second? : Option FieldValue) :
    settled (settled held first?) second? = settled held (first?.or second?) := by
  match held, first? with
  | none, _ => rfl
  | some (.ok _), _ => rfl
  | some (.error _), none => rfl
  | some (.error _), some _ => rfl

theorem label_ne_of_nodup {first other : Offer} {rest : List Offer}
    (hnodup : ((first :: rest).map (·.1.label)).Nodup) (hother : other ∈ rest) :
    first.1.label ≠ other.1.label := by
  intro h
  rw [List.map_cons, List.nodup_cons] at hnodup
  exact hnodup.1 (h ▸ List.mem_map_of_mem hother)

/-- Where no field is offered a value twice, the fields that come before a refused one are
granted. -/
theorem granted_cons {record : Record} {first : Offer} {rest : List Offer}
    (hnodup : ((first :: rest).map (·.1.label)).Nodup) :
    granted (first :: rest) (record.offer rest).2 =
      first :: granted rest (record.offer rest).2 := by
  cases hresult : (record.offer rest).2 with
  | ok _ => rfl
  | error error =>
      obtain ⟨offer, hoffer, rfl⟩ := exists_offer_of_error hresult
      simp [granted, label_ne_of_nodup hnodup hoffer]

/-- What a field holds after some offers, whether or not one of them was refused. -/
theorem get?_offer {record : Record} {offers : List Offer}
    (hnodup : (offers.map (·.1.label)).Nodup) (field : FieldName) :
    (record.offer offers).1.get? field =
      settled (record.get? field) (firstFor? (granted offers (record.offer offers).2) field) := by
  induction offers generalizing record with
  | nil => exact (settled_none _).symm
  | cons first rest ih =>
      by_cases hkept : ∃ kept, record.get? first.1 = some (.ok kept)
      · obtain ⟨kept, hkept⟩ := hkept
        have hnone : granted (first :: rest) (.error ⟨first.1.label⟩) = [] := by simp [granted]
        rw [offer_cons_of_refused hkept, hnone]
        exact (settled_none _).symm
      · rw [offer_cons_of_taken (not_exists.mp hkept), granted_cons hnodup, firstFor?_cons,
          ih (List.nodup_cons.mp hnodup).2, get?_put]
        by_cases hfield : first.1 = field
        · subst hfield
          rw [if_pos rfl, if_pos rfl]
          cases hheld : record.get? first.1 with
          | none => rfl
          | some held =>
              cases held with
              | error error => rfl
              | ok kept => exact absurd ⟨kept, hheld⟩ hkept
        · rw [if_neg (Ne.symm hfield), if_neg hfield]

/-- Offers end in a refusal exactly when one of the fields holds a value beforehand. -/
theorem offer_fails_iff {record : Record} {offers : List Offer}
    (hnodup : (offers.map (·.1.label)).Nodup) :
    (∃ error, (record.offer offers).2 = .error error) ↔
      ∃ offer ∈ offers, ∃ kept, record.get? offer.1 = some (.ok kept) := by
  induction offers generalizing record with
  | nil => simp [offer]
  | cons first rest ih =>
      by_cases hkept : ∃ kept, record.get? first.1 = some (.ok kept)
      · refine iff_of_true ?_ ⟨first, List.mem_cons_self, hkept⟩
        obtain ⟨kept, hkept⟩ := hkept
        exact ⟨_, congrArg Prod.snd (offer_cons_of_refused hkept first.2 rest)⟩
      · rw [offer_cons_of_taken (not_exists.mp hkept), ih (List.nodup_cons.mp hnodup).2]
        simp only [List.mem_cons, exists_eq_or_imp, hkept, false_or]
        refine exists_congr fun other => and_congr_right fun hother => ?_
        have hne : other.1 ≠ first.1 := fun h => label_ne_of_nodup hnodup hother (h ▸ rfl)
        rw [get?_put, if_neg hne]

end Record

end TaskScript
