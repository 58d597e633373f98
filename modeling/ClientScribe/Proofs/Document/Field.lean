import ClientScribe.Document.Access
import ClientScribe.Proofs.Document.Entries
import ClientScribe.Proofs.Result

/-!
# Fields of a Value

Whoever uses a field of a value that is no mapping ends the run as a misfit. So a run that goes on
knows that the value is a mapping, and every later question about its fields has an answer. The
lemmas here turn such a question into one about `Value.get?`, which asks nothing of the value.
-/

namespace ClientScribe.Document

/-- What a value has under a text, if it is a mapping and has something there. -/
def Value.get? (v : Value) (k : Text) : Option Value :=
  match v.view with
  | .map entries => lookup k entries
  | _ => none

namespace Value

variable {v w other : Value} {es : Entries} {k : Text} {b : Bool}

/-- What a mapping has under a text is what its entries have there. -/
theorem get?_of_view (h : v.view = .map es) (k : Text) : v.get? k = lookup k es := by
  simp [get?, h]

/-- A value with something under a text is a mapping. -/
theorem exists_view_of_get? (h : v.get? k = some w) : ∃ es, v.view = .map es := by
  unfold get? at h
  split at h
  · next es hv => exact ⟨es, hv⟩
  · cases h

/-- A value is a mapping exactly when it has entries. -/
theorem isMap_iff : v.isMap = true ↔ ∃ es, v.view = .map es := by
  unfold isMap
  split
  · next es hv => simp [hv]
  · next hv => simpa using fun es h => hv es h

/-- Entries can be asked for exactly of a mapping. -/
theorem entries_eq_ok_iff : v.entries = .ok es ↔ v.view = .map es := by
  unfold entries
  split
  · next es' hv => simp [hv]
  · next hv => simpa [misfit] using fun h => hv es h

/-- A field with a default can be asked for exactly of a mapping. -/
theorem fieldOr_eq_ok_iff :
    v.fieldOr k other = .ok w ↔ (∃ es, v.view = .map es) ∧ w = (v.get? k).getD other := by
  simp only [fieldOr, field?, Result.map_eq_ok_iff, entries_eq_ok_iff]
  constructor
  · rintro ⟨_, ⟨es, hv, rfl⟩, rfl⟩
    exact ⟨⟨es, hv⟩, by rw [get?_of_view hv]⟩
  · rintro ⟨⟨es, hv⟩, rfl⟩
    exact ⟨_, ⟨es, hv, rfl⟩, by rw [get?_of_view hv]⟩

/-- A field can be asked for exactly of a mapping, and is null if it is not there. -/
theorem field_eq_ok_iff :
    v.field k = .ok w ↔ (∃ es, v.view = .map es) ∧ w = (v.get? k).getD .null :=
  fieldOr_eq_ok_iff

/-- A field of a mapping is what is there, or null. -/
theorem field_of_view (h : v.view = .map es) : v.field k = .ok ((v.get? k).getD .null) :=
  field_eq_ok_iff.mpr ⟨⟨es, h⟩, rfl⟩

/-- A field of a mapping with a default is what is there, or the default. -/
theorem fieldOr_of_view (h : v.view = .map es) :
    v.fieldOr k other = .ok ((v.get? k).getD other) :=
  fieldOr_eq_ok_iff.mpr ⟨⟨es, h⟩, rfl⟩

/-- A field that must be there is there exactly when the value has something under its name. -/
theorem demand_eq_ok_iff : v.demand k = .ok w ↔ v.get? k = some w := by
  simp only [demand, Result.bind_eq_ok_iff, field?, Result.map_eq_ok_iff, entries_eq_ok_iff]
  constructor
  · rintro ⟨a, ⟨es, hv, rfl⟩, h⟩
    rw [get?_of_view hv]
    cases hl : lookup k es with
    | none => simp [hl, misfit] at h
    | some u => simpa [hl] using h
  · intro h
    obtain ⟨es, hv⟩ := exists_view_of_get? h
    rw [get?_of_view hv] at h
    exact ⟨_, ⟨es, hv, rfl⟩, by simp [h]⟩

/-- A mapping can be asked whether it has a field. -/
theorem has_of_view (h : v.view = .map es) : v.has k = .ok (v.get? k).isSome := by
  simp [has, h, get?_of_view h]

/-- The entries of a mapping as a mapping are its entries. -/
theorem asEntries_of_view (h : v.view = .map es) : v.asEntries = .ok es := by
  simp [asEntries, h]

/-- A mapping is not null. -/
theorem isNull_of_view (h : v.view = .map es) : v.isNull = false := by
  cases v <;> simp_all [view, isNull]

/-- A mapping with a field counts as given. -/
theorem isTrue_of_get? (h : v.get? k = some w) : v.isTrue = true := by
  cases v with
  | map es =>
      cases es with
      | nil => simp [get?, view, lookup] at h
      | cons e es => rfl
  | looped ring id => rfl
  | _ => simp [get?, view] at h

/-- Only a text is used as one. -/
theorem asText_eq_ok_iff {text : Text} : v.asText = .ok text ↔ v = .str text := by
  cases v <;> simp [asText, misfit]

/-- A text is written as it is. -/
@[simp] theorem text_str (s : Text) : (str s).text = .ok s := rfl

/-- Texts are written as they are. -/
theorem mapM_text_str (vs : List Text) : (vs.map str).mapM text = .ok vs :=
  Result.mapM_eq_ok_iff.mpr
    (List.forall₂_map_left_iff.mpr (List.forall₂_same.mpr fun _ _ => rfl))

end Value

end ClientScribe.Document
