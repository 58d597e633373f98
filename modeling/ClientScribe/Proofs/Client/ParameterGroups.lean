import ClientScribe.Client.ParameterGroup
import ClientScribe.Proofs.Document.Entries
import ClientScribe.Proofs.Result
import Mathlib.Data.List.Perm.Basic

/-!
# Parameters by Location

Entries are put into groups one after the other: an entry goes to the first group whose location is
the same as its own, or opens one at the end. `groupsOf` says what comes of it without the groups on
the way: the first location takes all entries whose location is the same, in order, and what is left
is grouped in the same way.

* `foldl_addEntry_eq_groupsOf`: that is what the entries one after the other make;
* `groupsOf_perm`: no entry is lost, and none stands twice;
* `entries_of_mem_groupsOf`: a location that is a text has exactly the entries with that location.
-/

namespace ClientScribe.Client

open Document (Value)

variable {group : ParameterGroup} {es : List (Value × Text)}

/-- The entries at a location, in order. -/
def entriesAt (location : Value) (es : List (Value × Text)) : List Text :=
  (es.filter fun e => location.same e.1).map Prod.snd

/-- The entries that are not at a location, with their own. -/
def elsewhere (location : Value) (es : List (Value × Text)) : List (Value × Text) :=
  es.filter fun e => !location.same e.1

/-- Entries by location, the locations in the order in which they appear first. -/
def groupsOf : List (Value × Text) → List ParameterGroup
  | [] => []
  | e :: rest => ⟨e.1, e.2 :: entriesAt e.1 rest⟩ :: groupsOf (elsewhere e.1 rest)
termination_by es => es.length
decreasing_by exact Nat.lt_succ_of_le (List.length_filter_le ..)

/-- The first of some groups takes the entries at its location, and the others are put into the
groups behind it. -/
theorem foldl_addEntry_cons (group : ParameterGroup) (groups : List ParameterGroup)
    (es : List (Value × Text)) :
    es.foldl (fun groups e => addEntry e.1 e.2 groups) (group :: groups) =
      ⟨group.location, group.entries ++ entriesAt group.location es⟩ ::
        (elsewhere group.location es).foldl (fun groups e => addEntry e.1 e.2 groups) groups := by
  induction es generalizing group groups with
  | nil => simp [entriesAt, elsewhere]
  | cons e es ih =>
      rw [List.foldl_cons, addEntry]
      cases hsame : group.location.same e.1 <;> simp [ih, hsame, entriesAt, elsewhere]

/-- **The groups of entries.** Put one after the other, entries come to stand by location. -/
theorem foldl_addEntry_eq_groupsOf (es : List (Value × Text)) :
    es.foldl (fun groups e => addEntry e.1 e.2 groups) [] = groupsOf es := by
  induction es using groupsOf.induct with
  | case1 => rw [groupsOf, List.foldl_nil]
  | case2 e rest ih =>
      rw [groupsOf, ← ih, List.foldl_cons, addEntry, foldl_addEntry_cons]
      rfl

/-- No entry is lost, and none stands twice. -/
theorem groupsOf_perm (es : List (Value × Text)) :
    ((groupsOf es).flatMap ParameterGroup.entries).Perm (es.map Prod.snd) := by
  induction es using groupsOf.induct with
  | case1 => simp [groupsOf]
  | case2 e rest ih =>
      rw [groupsOf, List.flatMap_cons, List.map_cons, List.cons_append]
      refine .cons _ ((ih.append_left _).trans ?_)
      rw [entriesAt, elsewhere, ← List.map_append]
      exact (List.filter_append_perm _ rest).map Prod.snd

/-- The location of a group is that of an entry. -/
theorem exists_mem_of_mem_groupsOf (h : group ∈ groupsOf es) : ∃ e ∈ es, e.1 = group.location := by
  induction es using groupsOf.induct with
  | case1 => simp [groupsOf] at h
  | case2 e rest ih =>
      rw [groupsOf] at h
      obtain rfl | h := List.mem_cons.mp h
      · exact ⟨e, List.mem_cons_self, rfl⟩
      · obtain ⟨other, hother, heq⟩ := ih h
        exact ⟨other, List.mem_cons_of_mem _ (List.mem_filter.mp hother).1, heq⟩

/-- No location stands behind one that is the same. -/
theorem pairwise_groupsOf (es : List (Value × Text)) :
    (groupsOf es).Pairwise fun a b => a.location.same b.location = false := by
  induction es using groupsOf.induct with
  | case1 => simp [groupsOf]
  | case2 e rest ih =>
      rw [groupsOf]
      refine .cons (fun group hgroup => ?_) ih
      obtain ⟨other, hother, heq⟩ := exists_mem_of_mem_groupsOf hgroup
      rw [← heq]
      simpa using (List.mem_filter.mp hother).2

/-- A location that is a text has exactly the entries with that location. -/
theorem entries_of_mem_groupsOf {location : Text} (h : group ∈ groupsOf es)
    (hlocation : group.location = .str location) :
    group.entries = (es.filter fun e => e.1.isText location).map Prod.snd := by
  have hsame (v : Value) : (Value.str location).same v = v.isText location := rfl
  induction es using groupsOf.induct with
  | case1 => simp [groupsOf] at h
  | case2 e rest ih =>
      rw [groupsOf] at h
      obtain rfl | h := List.mem_cons.mp h
      · dsimp only at hlocation
        simp [entriesAt, hlocation, hsame]
      · -- what the first location takes is at another text
        have hother : e.1.same (.str location) = false := by
          obtain ⟨other, hother, heq⟩ := exists_mem_of_mem_groupsOf h
          rw [← hlocation, ← heq]
          simpa using (List.mem_filter.mp hother).2
        rw [Value.same_str] at hother
        rw [ih h, elsewhere, List.filter_filter, List.filter_cons, if_neg (by simp [hother])]
        congr 1
        refine List.filter_congr fun other _ => ?_
        cases htext : other.1.isText location with
        | false => rfl
        | true => rw [Value.isText_iff.mp htext, Value.same_str, hother]; rfl

end ClientScribe.Client
