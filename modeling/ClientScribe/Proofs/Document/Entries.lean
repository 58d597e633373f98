import ClientScribe.Document.Value
import Mathlib.Data.List.Basic

/-!
# Entries of a Mapping Under Text Keys

Two entries of a mapping are told apart by `Value.same`, which compares numbers by amount. A text is
the same only as itself (`Value.same_str`), so under text keys `put` and `lookup` obey the laws of a
finite map: what was put is found, other texts keep their values, and putting a text that is not
there yet appends one entry (`put_of_lookup_eq_none`).
-/

namespace ClientScribe.Document

namespace Value

/-- A value is a text exactly when it is that text. -/
theorem isText_iff {v : Value} {s : Text} : v.isText s = true ↔ v = .str s := by
  cases v <;> simp [isText]

/-- A text is this text exactly when the two are equal. -/
@[simp] theorem isText_str (s t : Text) : (str s).isText t = (s == t) := rfl

/-- Only the text itself is the same key as a text. -/
theorem same_str (v : Value) (s : Text) : v.same (.str s) = v.isText s := by
  cases v with
  | str t =>
      rw [same, isText_str, isText_str, Bool.eq_iff_iff, beq_iff_eq, beq_iff_eq]
      exact eq_comm
  | _ => simp [same, isText, isNull, hasAmount, whole?]

end Value

section Lookup

variable {es fs : Entries} {k l : Text} {v w : Value}

/-- A text without a value is no key. -/
theorem lookup_eq_none_iff : lookup k es = none ↔ ∀ e ∈ es, e.1 ≠ .str k := by
  induction es with
  | nil => simp [lookup]
  | cons e es ih =>
      obtain ⟨key, v⟩ := e
      by_cases hk : key.isText k = true
      · simp [lookup, Value.isText_iff.mp hk]
      · have hne : key ≠ .str k := fun h => hk (Value.isText_iff.mpr h)
        simp [lookup, hk, ih, hne]

/-- A text with a value is the key of an entry. -/
theorem mem_of_lookup (h : lookup k es = some v) : (.str k, v) ∈ es := by
  induction es with
  | nil => cases h
  | cons e es ih =>
      obtain ⟨key, u⟩ := e
      rw [lookup] at h
      split at h
      · next hk =>
        obtain rfl := Value.isText_iff.mp hk
        obtain rfl := Option.some.inj h
        exact List.mem_cons_self
      · exact List.mem_cons_of_mem _ (ih h)

/-- In a longer mapping the first part is asked first. -/
theorem lookup_append : lookup k (es ++ fs) = (lookup k es).or (lookup k fs) := by
  induction es with
  | nil => rfl
  | cons e es ih =>
      obtain ⟨key, v⟩ := e
      by_cases hk : key.isText k = true <;> simp [lookup, hk, ih]

/-- A text that is not there yet is put behind all entries. -/
theorem put_of_lookup_eq_none (h : lookup k es = none) :
    put (.str k) v es = es ++ [(.str k, v)] := by
  induction es with
  | nil => rfl
  | cons e es ih =>
      obtain ⟨key, u⟩ := e
      rw [lookup] at h
      split at h
      · cases h
      · next hk => simp [put, Value.same_str, hk, ih h]

/-- What was put under a text is its value. -/
@[simp] theorem lookup_put_self : lookup k (put (.str k) v es) = some v := by
  induction es with
  | nil => simp [put, lookup]
  | cons e es ih =>
      obtain ⟨key, u⟩ := e
      by_cases hk : key.isText k = true <;> simp [put, lookup, Value.same_str, hk, ih]

/-- Putting a value under a text leaves the values of other texts. -/
theorem lookup_put_of_ne (h : k ≠ l) : lookup k (put (.str l) v es) = lookup k es := by
  induction es with
  | nil => simp [put, lookup, h.symm]
  | cons e es ih =>
      obtain ⟨key, u⟩ := e
      by_cases hl : key.isText l = true
      · obtain rfl := Value.isText_iff.mp hl
        simp [put, lookup, Value.same_str, h.symm]
      · simp [put, lookup, Value.same_str, hl, ih]

/-- An entry stays where a value is put under a text that is not its key. -/
theorem mem_put_of_ne {e : Value × Value} (he : e ∈ es) (hne : e.1 ≠ .str k) :
    e ∈ put (.str k) v es := by
  induction es with
  | nil => cases he
  | cons head es ih =>
      obtain ⟨key, u⟩ := head
      by_cases hk : key.isText k = true
      · have hput : put (.str k) v ((key, u) :: es) = (key, v) :: es := by
          simp [put, Value.same_str, hk]
        obtain rfl | he := List.mem_cons.mp he
        · exact absurd (Value.isText_iff.mp hk) hne
        · exact hput ▸ List.mem_cons_of_mem _ he
      · have hput : put (.str k) v ((key, u) :: es) = (key, u) :: put (.str k) v es := by
          simp [put, Value.same_str, hk]
        obtain rfl | he := List.mem_cons.mp he
        · exact hput ▸ List.mem_cons_self
        · exact hput ▸ List.mem_cons_of_mem _ (ih he)

/-- Putting a value takes no text out of a mapping. -/
theorem lookup_put_isSome (h : (lookup k es).isSome = true) :
    (lookup k (put (.str l) v es)).isSome = true := by
  by_cases hkl : k = l
  · subst hkl
    simp
  · rwa [lookup_put_of_ne hkl]

/-- Without a key the values of other texts are the same. -/
theorem lookup_erase_of_ne (h : k ≠ l) : lookup k (erase l es) = lookup k es := by
  induction es with
  | nil => rfl
  | cons e es ih =>
      obtain ⟨key, v⟩ := e
      by_cases hl : key.isText l = true
      · obtain rfl := Value.isText_iff.mp hl
        have herase : erase l ((.str l, v) :: es) = erase l es := by simp [erase]
        rw [herase, ih]
        simp [lookup, h.symm]
      · have herase : erase l ((key, v) :: es) = (key, v) :: erase l es := by simp [erase, hl]
        rw [herase, lookup, lookup, ih]

/-- What is done with all values is done with the value of a text. -/
theorem lookup_map_snd (f : Value → Value) (k : Text) (es : Entries) :
    lookup k (es.map fun e => (e.1, f e.2)) = (lookup k es).map f := by
  induction es with
  | nil => rfl
  | cons e es ih =>
      rw [List.map_cons, lookup, lookup, ih]
      split <;> rfl

end Lookup

end ClientScribe.Document
