import ClientScribe.Api.Response
import ClientScribe.Proofs.Api.Endpoints
import Mathlib.Data.List.Pairwise

/-!
# The Best Response

The best response is found in one pass, which keeps the best one so far and passes over codes that
are no numbers. `IsBest` is what the pass knows of the responses it has seen: none of them has a
number, or the one it keeps is the first with the least number (`IsFirstLeast`). A step keeps this
(`IsBest.exists_better`), and so a pass ends with it (`IsBest.exists_foldlM`).

What the first response with the least number is depends on the responses with a number and on their
order (`bestOf_eq_of_filter_eq`); where no two numbers are equal it does not even depend on the
order (`bestOf_eq_of_perm`).
-/

namespace ClientScribe.Api

open Document (Value)

variable {response best other : Value} {responses others seen rest : List Value} {n m : Int}

/-- The code of a response is a text. -/
def HasTextCode (response : Value) : Prop := ∃ code, response.get? "code" = some (.str code)

/-- The number of a response, if its code is a text that is one. -/
def number? (response : Value) : Option Int :=
  match response.get? "code" with
  | some (.str code) => code.chars?.bind (Decimal.integer? 10)
  | _ => none

/-- Whether a response has a number. -/
def hasNumber (response : Value) : Bool := (number? response).isSome

/-- A response is the first one with a number that is the least of a list. -/
structure IsFirstLeast (best : Value) (n : Int) (responses : List Value) : Prop where
  first : responses.find? (fun r => number? r = some n) = some best
  least : ∀ r ∈ responses, ∀ m, number? r = some m → n ≤ m

/-- The first least response has the least number. -/
theorem IsFirstLeast.number?_eq (h : IsFirstLeast best n responses) : number? best = some n := by
  simpa using List.find?_some h.first

/-- The first least response is one of the list. -/
theorem IsFirstLeast.mem (h : IsFirstLeast best n responses) : best ∈ responses :=
  List.mem_of_find?_eq_some h.first

/-! ### The pass over the responses -/

/-- What is known of the best response among those that have been seen. -/
def IsBest : Best → List Value → Prop
  | none, seen => ∀ r ∈ seen, number? r = none
  | some (best, n), seen => IsFirstLeast best n seen

/-- What comes of a step is told by the number of the response. -/
theorem better_of_hasTextCode (h : HasTextCode response) (kept : Best) :
    better kept response = .ok (match number? response, kept with
      | none, kept => kept
      | some n, none => some (response, n)
      | some n, some (best, least) =>
        if n < least then some (response, n) else some (best, least)) := by
  obtain ⟨code, hcode⟩ := h
  have hnumber : codeNumber (.str code) = .ok (number? response) := by
    rw [number?, hcode]
    rfl
  rw [better, Value.demand_eq_ok_iff.mpr hcode, Result.ok_bind, hnumber, Result.ok_bind]
  rcases number? response with _ | n
  · rfl
  · obtain _ | ⟨best, least⟩ := kept
    · rfl
    · dsimp only
      split <;> rfl

/-- A response whose number is not less than the least one changes nothing. -/
theorem IsFirstLeast.append (h : IsFirstLeast best n seen)
    (hnumber : ∀ m, number? response = some m → n ≤ m) :
    IsFirstLeast best n (seen ++ [response]) where
  first := by simp [h.first]
  least := List.forall_mem_append.mpr ⟨h.least, List.forall_mem_singleton.mpr hnumber⟩

/-- A response whose number is less than all others takes the place of the best one. -/
theorem IsFirstLeast.of_lt (hnumber : number? response = some n)
    (hseen : ∀ r ∈ seen, ∀ m, number? r = some m → n < m) :
    IsFirstLeast response n (seen ++ [response]) where
  first := by
    have hnone : seen.find? (fun r => number? r = some n) = none := by
      refine List.find?_eq_none.mpr fun r hr heq => ?_
      exact Int.lt_irrefl n (hseen r hr n (by simpa using heq))
    simp [hnone, hnumber]
  least := by
    refine List.forall_mem_append.mpr ⟨fun r hr m hm => Int.le_of_lt (hseen r hr m hm), ?_⟩
    refine List.forall_mem_singleton.mpr fun m hm => ?_
    exact Int.le_of_eq (Option.some.inj (hnumber.symm.trans hm))

/-- **A step of the pass** goes well and keeps the best one of the responses seen and the next. -/
theorem IsBest.exists_better {kept : Best} (h : IsBest kept seen) (hcode : HasTextCode response) :
    ∃ next, better kept response = .ok next ∧ IsBest next (seen ++ [response]) := by
  refine ⟨_, better_of_hasTextCode hcode kept, ?_⟩
  obtain _ | ⟨best, least⟩ := kept
  · cases hnumber : number? response with
    | none => exact List.forall_mem_append.mpr ⟨h, List.forall_mem_singleton.mpr hnumber⟩
    | some n => exact IsFirstLeast.of_lt hnumber fun r hr m hm => by cases (h r hr).symm.trans hm
  · cases hnumber : number? response with
    | none => exact IsFirstLeast.append h fun m hm => by cases hnumber.symm.trans hm
    | some n =>
        dsimp only
        split
        · next hlt =>
          exact IsFirstLeast.of_lt hnumber fun r hr m hm =>
            Int.lt_of_lt_of_le hlt (IsFirstLeast.least h r hr m hm)
        · next hle =>
          refine IsFirstLeast.append h fun m hm => ?_
          obtain rfl := Option.some.inj (hnumber.symm.trans hm)
          exact Int.not_lt.mp hle

/-- **A pass** over responses with text codes goes well and keeps the best one of all. -/
theorem IsBest.exists_foldlM {kept : Best} (h : IsBest kept seen)
    (hcodes : ∀ r ∈ rest, HasTextCode r) :
    ∃ last, rest.foldlM better kept = .ok last ∧ IsBest last (seen ++ rest) := by
  induction rest generalizing kept seen with
  | nil => exact ⟨kept, rfl, by simpa using h⟩
  | cons r rest ih =>
      obtain ⟨hr, hrest⟩ := List.forall_mem_cons.mp hcodes
      obtain ⟨next, hnext, hbest⟩ := h.exists_better hr
      obtain ⟨last, hlast, hbest⟩ := ih hbest hrest
      refine ⟨last, ?_, by simpa using hbest⟩
      rw [List.foldlM_cons, hnext, Result.ok_bind, hlast]

/-! ### The first response with the least number -/

/-- Responses without a number do not tell which one is the best. -/
theorem IsFirstLeast.filter (h : IsFirstLeast best n responses) :
    IsFirstLeast best n (responses.filter hasNumber) where
  first := by
    rw [List.find?_filter, ← h.first]
    congr 1
    funext r
    by_cases hr : number? r = some n <;> simp [hr, hasNumber]
  least r hr := h.least r (List.mem_filter.mp hr).1

/-- A list has one first response with the least number at most. -/
theorem IsFirstLeast.unique (h : IsFirstLeast best n responses)
    (hother : IsFirstLeast other m responses) : best = other := by
  have hle : n ≤ m := h.least other hother.mem m hother.number?_eq
  have hge : m ≤ n := hother.least best h.mem n h.number?_eq
  obtain rfl : n = m := Int.le_antisymm hle hge
  exact Option.some.inj (h.first.symm.trans hother.first)

/-- Where no number comes up twice, neither does a response with a number. -/
theorem eq_of_number?_eq (hnodup : (responses.filterMap number?).Nodup) {r s : Value}
    (hr : r ∈ responses) (hs : s ∈ responses) (hrn : number? r = some n)
    (hsn : number? s = some n) : r = s := by
  have hsymm : Std.Symm fun r s => ∀ n, number? r = some n → ∀ m, number? s = some m → n ≠ m :=
    ⟨fun _ _ happart m hm n hn => (happart n hn m hm).symm⟩
  by_contra hne
  exact (List.pairwise_filterMap.mp hnodup).forall hr hs hne n hrn n hsn rfl

/-- Where no number comes up twice, every order of the responses has the same best one. -/
theorem IsFirstLeast.eq_of_perm (h : IsFirstLeast best n responses)
    (hother : IsFirstLeast other m seen) (hperm : seen.Perm responses)
    (hnodup : (responses.filterMap number?).Nodup) : other = best := by
  have hmem : other ∈ responses := hperm.mem_iff.mp hother.mem
  have hle : n ≤ m := h.least other hmem m hother.number?_eq
  have hge : m ≤ n := hother.least best (hperm.mem_iff.mpr h.mem) n h.number?_eq
  obtain rfl : n = m := Int.le_antisymm hle hge
  exact eq_of_number?_eq hnodup hmem h.mem hother.number?_eq h.number?_eq

/-! ### The best response -/

/-- **The best response of a list** whose codes are texts is the first one with the least number,
and the first one of all if none has a number. -/
theorem bestOf_cases (hcodes : ∀ r ∈ responses, HasTextCode r) :
    (∃ best n, bestOf responses = .ok (some best) ∧ IsFirstLeast best n responses) ∨
      bestOf responses = .ok responses.head? ∧ ∀ r ∈ responses, number? r = none := by
  have hnone : IsBest none [] := fun r hr => by cases hr
  obtain ⟨last, hlast, hbest⟩ := hnone.exists_foldlM hcodes
  rw [bestOf, hlast, Result.ok_bind]
  obtain _ | ⟨best, n⟩ := last
  · exact .inr ⟨rfl, hbest⟩
  · exact .inl ⟨best, n, rfl, hbest⟩

/-- The best response can always be told. -/
theorem exists_bestOf (hcodes : ∀ r ∈ responses, HasTextCode r) :
    ∃ best, bestOf responses = .ok best := by
  obtain ⟨best, -, hbest, -⟩ | ⟨hhead, -⟩ := bestOf_cases hcodes
  · exact ⟨_, hbest⟩
  · exact ⟨_, hhead⟩

/-- If a response has a number, the best response is the first one with the least number. -/
theorem exists_isFirstLeast (hcodes : ∀ r ∈ responses, HasTextCode r)
    (hnumber : ∃ r ∈ responses, hasNumber r = true) :
    ∃ best n, bestOf responses = .ok (some best) ∧ IsFirstLeast best n responses := by
  obtain hbest | ⟨-, hnone⟩ := bestOf_cases hcodes
  · exact hbest
  · obtain ⟨r, hr, hsome⟩ := hnumber
    simp [hasNumber, hnone r hr] at hsome

/-- If no response has a number, the best response is the first one. -/
theorem bestOf_eq_ok_head? (hcodes : ∀ r ∈ responses, HasTextCode r)
    (hnone : ∀ r ∈ responses, hasNumber r = false) :
    bestOf responses = .ok responses.head? := by
  obtain ⟨best, n, -, hleast⟩ | ⟨hhead, -⟩ := bestOf_cases hcodes
  · have hsome : hasNumber best = true := by simp [hasNumber, hleast.number?_eq]
    cases hsome.symm.trans (hnone best hleast.mem)
  · exact hhead

/-- Responses without a number never change the best one among others. -/
theorem bestOf_eq_of_filter_eq (hcodes : ∀ r ∈ responses, HasTextCode r)
    (hothers : ∀ r ∈ others, HasTextCode r) (hnumber : ∃ r ∈ responses, hasNumber r = true)
    (hfilter : others.filter hasNumber = responses.filter hasNumber) :
    bestOf others = bestOf responses := by
  have hnumber' : ∃ r ∈ others, hasNumber r = true := by
    obtain ⟨r, hr, hsome⟩ := hnumber
    have hmem : r ∈ others.filter hasNumber := hfilter ▸ List.mem_filter.mpr ⟨hr, hsome⟩
    exact ⟨r, (List.mem_filter.mp hmem).1, hsome⟩
  obtain ⟨best, n, hbest, hleast⟩ := exists_isFirstLeast hcodes hnumber
  obtain ⟨best', n', hbest', hleast'⟩ := exists_isFirstLeast hothers hnumber'
  have hsame : IsFirstLeast best' n' (responses.filter hasNumber) := hfilter ▸ hleast'.filter
  rw [hbest, hbest', hsame.unique hleast.filter]

/-- Where no number comes up twice, the order of the responses does not matter. -/
theorem bestOf_eq_of_perm (hcodes : ∀ r ∈ responses, HasTextCode r)
    (hnumber : ∃ r ∈ responses, hasNumber r = true)
    (hnodup : (responses.filterMap number?).Nodup) (hperm : others.Perm responses) :
    bestOf others = bestOf responses := by
  obtain ⟨r, hr, hsome⟩ := hnumber
  obtain ⟨best, n, hbest, hleast⟩ := exists_isFirstLeast hcodes ⟨r, hr, hsome⟩
  obtain ⟨best', n', hbest', hleast'⟩ := exists_isFirstLeast
    (fun r hr => hcodes r (hperm.mem_iff.mp hr)) ⟨r, hperm.mem_iff.mpr hr, hsome⟩
  rw [hbest, hbest', hleast.eq_of_perm hleast' hperm hnodup]

/-- There is a best response exactly if there are responses. -/
theorem bestOf_eq_ok_none_iff (hcodes : ∀ r ∈ responses, HasTextCode r) :
    bestOf responses = .ok none ↔ responses = [] := by
  obtain ⟨best, n, hbest, hleast⟩ | ⟨hhead, -⟩ := bestOf_cases hcodes
  · simp [hbest, List.ne_nil_of_mem hleast.mem]
  · simp [hhead]

/-- The responses of an operation have texts for codes. -/
theorem hasTextCode_of_operation {document pathItem path : Value} {method : Text} {op : Operation}
    (h : operation document pathItem path method = .ok op) : ∀ r ∈ op.responses, HasTextCode r := by
  obtain ⟨fields, hread⟩ := exists_isReadFrom_of_operation h
  obtain ⟨listed, -, hresponses⟩ := Result.bind_eq_ok_iff.mp hread.responses
  obtain ⟨entries, -, hresponses⟩ := Result.bind_eq_ok_iff.mp hresponses
  intro r hr
  obtain ⟨e, -, he⟩ := Result.exists_of_mem_mapM hresponses hr
  simp only [withCode, Result.bind_eq_ok_iff, Result.pure_def, Except.ok.injEq] at he
  obtain ⟨fields, -, code, -, rfl⟩ := he
  exact ⟨code, (Value.get?_of_view rfl _).trans Document.lookup_put_self⟩

end ClientScribe.Api
