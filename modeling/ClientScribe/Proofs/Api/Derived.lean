import ClientScribe.Api.Derived
import ClientScribe.Api.Operation
import ClientScribe.Proofs.Agreement
import ClientScribe.Proofs.Document.Field

/-!
# What Derivation Leaves Alone

The derived fields of a description say where its service is. `derivedFields_eq_ok` tells what each
of them becomes, and that every other field stays; so two sources differ in the host and the schemes
at most, and only where the description leaves them out.

A description that contains itself is another matter. It has the derived fields wherever it comes
up, so a part that leads back to it is not the same afterwards. `OpensOutward` says that the parts
from which operations and types are read do not lead back; these parts stay as they are
(`field_of_opensOutward`).
-/

namespace ClientScribe

open Document (Value Entries lookup put erase)

namespace Api

open Document (lookup_put_self lookup_put_of_ne lookup_erase_of_ne lookup_map_snd)

variable {es derived : Entries} {source : Option Text} {k l old new : Text} {v other : Value}

/-! ### Single fields -/

/-- A field that is put if it is new is what was there, or else the new value. -/
theorem lookup_putNew_self :
    lookup k (putNew k v es) = some ((lookup k es).getD v) := by
  unfold putNew
  split
  · next h =>
    obtain ⟨w, hw⟩ := Option.isSome_iff_exists.mp h
    simp [hw]
  · next h => simp [Option.not_isSome_iff_eq_none.mp h]

/-- Putting a field if it is new leaves the others. -/
theorem lookup_putNew_of_ne (h : k ≠ l) : lookup k (putNew l v es) = lookup k es := by
  unfold putNew
  split
  · rfl
  · exact lookup_put_of_ne h

/-- A field that is put if it is missing is what was there, unless that is not true. -/
theorem lookup_putMissing_self :
    (lookup k (putMissing k v es)).getD .null = ((lookup k es).getD .null).orElse v := by
  unfold putMissing Value.orElse
  split
  · rfl
  · rw [lookup_put_self]
    rfl

/-- Putting a field if it is missing leaves the others. -/
theorem lookup_putMissing_of_ne (h : k ≠ l) : lookup k (putMissing l v es) = lookup k es := by
  unfold putMissing
  split
  · rfl
  · exact lookup_put_of_ne h

/-- A field that is renamed is under its new name, or its default is. -/
theorem lookup_rename_new :
    lookup new (rename old new other es) = some (((lookup old es).getD .null).orElse other) :=
  lookup_put_self

/-- Renaming a field leaves the fields with other names than its two. -/
theorem lookup_rename_of_ne (hnew : k ≠ new) (hold : k ≠ old) :
    lookup k (rename old new other es) = lookup k es := by
  rw [rename, lookup_put_of_ne hnew, lookup_erase_of_ne hold]

/-! ### All fields -/

/-- The fields that derivation sets or takes away. -/
def derivedKeys : List Text :=
  ["basePath", "host", "schemes", "produces", "accepts", "consumes", "contentTypes"].map
    Text.ofString

/-- The derived fields of a description, given its base path, and the host and the scheme of its
source. -/
structure IsDerived (es : Entries) (basePath host scheme : Text) (derived : Entries) : Prop where
  basePath : lookup "basePath" derived = some (.str (withoutLastSlash basePath))
  host : lookup "host" derived = some ((lookup "host" es).getD (.str host))
  schemes : (lookup "schemes" derived).getD .null =
    ((lookup "schemes" es).getD .null).orElse (.list [.str scheme])
  accepts : lookup "accepts" derived =
    some (((lookup "produces" es).getD .null).orElse (.list [.str "application/json"]))
  contentTypes : lookup "contentTypes" derived =
    some (((lookup "consumes" es).getD .null).orElse (.list []))
  others : ∀ k ∉ derivedKeys, lookup k derived = lookup k es

/-- **What derivation does to each field.** -/
theorem derivedFields_eq_ok (h : derivedFields es source = .ok derived) :
    ∃ basePath host scheme,
      (((lookup "basePath" es).getD .null).orElse (.str [])).asText = .ok basePath ∧
      origin source = .ok (host, scheme) ∧ IsDerived es basePath host scheme derived := by
  simp only [derivedFields, Result.bind_eq_ok_iff, Result.pure_def, Except.ok.injEq] at h
  obtain ⟨basePath, hbasePath, ⟨host, scheme⟩, horigin, rfl⟩ := h
  refine ⟨basePath, host, scheme, hbasePath, horigin, ?_, ?_, ?_, ?_, ?_, ?_⟩
  · simp [lookup_rename_of_ne, lookup_putMissing_of_ne, lookup_putNew_of_ne]
  · simp [lookup_rename_of_ne, lookup_putMissing_of_ne, lookup_putNew_self, lookup_put_of_ne]
  · simp [lookup_rename_of_ne, lookup_putMissing_self, lookup_putNew_of_ne, lookup_put_of_ne]
  · simp [lookup_rename_of_ne, lookup_rename_new, lookup_putMissing_of_ne, lookup_putNew_of_ne,
      lookup_put_of_ne]
  · simp [lookup_rename_of_ne, lookup_rename_new, lookup_putMissing_of_ne, lookup_putNew_of_ne,
      lookup_put_of_ne]
  · intro k hk
    simp only [derivedKeys, List.map_cons, List.map_nil, List.mem_cons, List.not_mem_nil,
      or_false, not_or] at hk
    obtain ⟨hbase, hhost, hschemes, hproduces, haccepts, hconsumes, hcontent⟩ := hk
    rw [lookup_rename_of_ne hcontent hconsumes, lookup_rename_of_ne haccepts hproduces,
      lookup_putMissing_of_ne hschemes, lookup_putNew_of_ne hhost, lookup_put_of_ne hbase]

/-! ### The description -/

/-- The entries of the description itself, with links to the members of its ring in them if it is
one. -/
def rootEntries (document : Value) : Result Entries :=
  match document with
  | .looped ring id => ((ring.lookup id).getD .null).entries
  | document => document.entries

/-- What the entries of a description are when they are looked at: the same, or the members of its
ring in place of the links. -/
inductive Outside : (Value → Value) → Prop
  | plain : Outside id
  | looped (ring : List (Nat × Value)) : Outside (Value.outside ring)

/-- Only links are looked at differently. -/
theorem Outside.eq_of_ne_link {f : Value → Value} (h : Outside f) (hv : ∀ j, v ≠ .link j) :
    f v = v := by
  cases h with
  | plain => rfl
  | looped ring =>
      cases v with
      | link j => exact absurd rfl (hv j)
      | _ => rfl

/-- A member of a ring that is written anew is found anew. -/
theorem lookup_map_update {ring : List (Nat × Value)} {id : Nat} {root : Value}
    (h : ring.lookup id = some root) (v : Value) :
    (ring.map fun e => if e.1 == id then (id, v) else e).lookup id = some v := by
  induction ring with
  | nil => cases h
  | cons e ring ih =>
      obtain ⟨key, w⟩ := e
      by_cases hkey : key = id
      · simp [hkey]
      · have hne : id ≠ key := Ne.symm hkey
        rw [List.lookup_cons, beq_false_of_ne hne] at h
        simpa [hkey, List.lookup_cons, beq_false_of_ne hne] using ih h

/-- The description with its derived fields, as it is looked at. -/
theorem withDerivedFields_eq_ok {document d : Value}
    (h : withDerivedFields document source = .ok d) :
    ∃ es derived f, rootEntries document = .ok es ∧ derivedFields es source = .ok derived ∧
      Outside f ∧ d.view = .map (derived.map fun e => (e.1, f e.2)) := by
  unfold withDerivedFields at h
  split at h
  · next ring id =>
    simp only [Result.bind_eq_ok_iff, Result.pure_def, Except.ok.injEq] at h
    obtain ⟨es, hes, derived, hderived, rfl⟩ := h
    obtain ⟨root, hroot⟩ : ∃ root, ring.lookup id = some root := by
      cases hroot : ring.lookup id with
      | none => simp [hroot, Value.entries, Value.view, Document.misfit] at hes
      | some root => exact ⟨root, rfl⟩
    let renewed := ring.map fun e => if e.1 == id then (id, .map derived) else e
    refine ⟨es, derived, Value.outside renewed, hes, hderived, .looped renewed, ?_⟩
    rw [Value.view, lookup_map_update hroot]
    rfl
  · next hplain =>
    simp only [Result.bind_eq_ok_iff, Result.pure_def, Except.ok.injEq] at h
    obtain ⟨es, hes, derived, hderived, rfl⟩ := h
    refine ⟨es, derived, id, ?_, hderived, .plain, by simp [Value.view]⟩
    unfold rootEntries
    split
    · next ring id => exact absurd rfl (hplain ring id)
    · exact hes

/-- The parts of a description from which operations and types are read. -/
def readKeys : List Text := ["paths", "components", "security"].map Text.ofString

/-- A description is a mapping whose parts from which operations and types are read do not lead back
to it. -/
inductive OpensOutward : Value → Prop
  | plain (es : Entries) : OpensOutward (.map es)
  | looped (ring : List (Nat × Value)) (id : Nat) (es : Entries)
      (hroot : ring.lookup id = some (.map es))
      (hback : ∀ k ∈ readKeys, ∀ j, lookup k es ≠ some (.link j)) :
      OpensOutward (.looped ring id)

/-- **The parts that are read stay as they are.** -/
theorem field_of_opensOutward {document d : Value} (hdocument : OpensOutward document)
    (h : withDerivedFields document source = .ok d) (hk : k ∈ readKeys) :
    d.field k = document.field k := by
  have hothers : k ∉ derivedKeys := by
    have hapart : ∀ k ∈ readKeys, k ∉ derivedKeys := by decide
    exact hapart k hk
  cases hdocument with
  | plain es =>
      obtain ⟨es', hes, h⟩ := Result.bind_eq_ok_iff.mp h
      obtain rfl : es = es' := Except.ok.inj hes
      obtain ⟨derived, hderived, h⟩ := Result.bind_eq_ok_iff.mp h
      obtain rfl := Except.ok.inj h
      obtain ⟨_, _, _, -, -, hderived⟩ := derivedFields_eq_ok hderived
      have hsame : (Value.map derived).get? k = (Value.map es).get? k := hderived.others k hothers
      rw [Value.field_of_view (v := .map derived) rfl, Value.field_of_view (v := .map es) rfl,
        hsame]
  | looped ring id es hroot hback =>
      obtain ⟨es', derived, f, hes, hderived, hf, hview⟩ := withDerivedFields_eq_ok h
      obtain ⟨_, _, _, -, -, hderived⟩ := derivedFields_eq_ok hderived
      have hrootEntries : rootEntries (.looped ring id) = .ok es := by
        simp [rootEntries, hroot, Value.entries, Value.view]
      obtain rfl := Except.ok.inj (hrootEntries.symm.trans hes)
      have hdocument : (Value.looped ring id).view =
          .map (es.map fun e => (e.1, Value.outside ring e.2)) := by
        simp [Value.view, Value.opened, hroot]
      have hsame (f : Value → Value) (hf : Outside f) : (lookup k es).map f = lookup k es := by
        cases hlookup : lookup k es with
        | none => rfl
        | some v =>
            refine congrArg some (hf.eq_of_ne_link fun j hj => ?_)
            exact hback k hk j (hlookup.trans (congrArg some hj))
      rw [Value.field_of_view hview, Value.field_of_view hdocument, Value.get?_of_view hview,
        Value.get?_of_view hdocument, Document.lookup_map_snd, Document.lookup_map_snd,
        hderived.others k hothers, hsame f hf, hsame _ (.looped ring)]

end Api

end ClientScribe
