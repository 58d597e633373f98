import ClientScribe.Proofs.Script.Identifier
import ClientScribe.Proofs.Script.LiteralUnion

/-!
# Reading Keys Of Object Literals

A key of an object literal is an identifier name as it is, or a text in single quotes with all
escapes of the client's language. `objectKey` reads the key at the start of a text, by the machine
that reads unions of literals, and stops behind the closing quote. What an entry with such a key
does is another matter: `__proto__` is a key like any other here.

A name that is put between quotes as it is comes out again exactly if it has no quote, no backslash
and no end of a line (`literalFrom_append_iff`). What stands behind the closing quote plays no part
in this, although a backslash at the end of the name makes the reader go on there. The argument is
about the first quote of all: up to it the reader cannot have yielded more than it has read, and
less if it stands behind a backslash. So if that quote is the closing one, nothing was escaped; and
if it is taken into the text, the text has a quote at an earlier place than the name.
-/

namespace ClientScribe.Script

open LiteralUnion (State cost cost_append count_units credit escapeStep insideStep length_units
  price_of_ne_behind price_step_le step)

/-! ### The reader -/

/-- Reads a text up to its closing quote: its units, and what stands behind it. -/
def literalFrom (state : State) : Text → Option (List Nat × Text)
  | [] => none
  | c :: rest => do
    let (next, units) ← step state c
    if next = .behind then return ([], rest) else behind units (literalFrom next rest)

/-- Reads a key of an object literal: what it says, and what stands behind it. -/
def objectKey : Text → Option (List Nat × Text)
  | .char '\'' :: rest => literalFrom .inside rest
  | s => if isIdentifierName (nameIn s) then some ((nameIn s).units, behindName s) else none

/-- The key of an entry of an object literal: nothing or a colon is behind it. -/
def entryKey (s : Text) : Option (List Nat) := do
  let (units, rest) ← objectKey s
  if (Json.skipSpace rest).head?.all (· == .char ':') then return units else none

variable {c : CodePoint} {state next : State} {units : List Nat} {name s k rest : Text}

/-- Behind a quote a key is a literal. -/
theorem objectKey_quote (s : Text) : objectKey (.char '\'' :: s) = literalFrom .inside s := rfl

/-- Without a quote in front a key is an identifier. -/
theorem objectKey_of_head_ne (h : s.head? ≠ some (.char '\'')) : objectKey s =
    if isIdentifierName (nameIn s) then some ((nameIn s).units, behindName s) else none := by
  unfold objectKey
  split
  · exact absurd rfl h
  · rfl

/-! ### Units of texts -/

/-- A text has the unit of a small character exactly if it has the character. -/
theorem toNat_mem_units_iff {d : Char} (hd : d.toNat < 0xD800) :
    d.toNat ∈ s.units ↔ .char d ∈ s := by
  have hpoint (c : CodePoint) : d.toNat ∈ c.units ↔ c = .char d := by
    rw [← List.count_pos_iff, count_units hd]
    split <;> simp_all
  simp [Text.units, hpoint]

/-! ### Up to the first quote -/

/-- A step that is no closing quote yields its units in front of the rest of the literal. -/
theorem literalFrom_cons_of_ne (h : step state c = some (next, units)) (hnext : next ≠ .behind)
    (s : Text) : literalFrom state (c :: s) = behind units (literalFrom next s) := by
  rw [literalFrom, h]
  exact if_neg hnext

/-- Whether the reader stands between quotes. -/
def IsBetween (state : State) : Prop := state ≠ .opening ∧ state ≠ .behind

/-- Only a quote leads out of a literal. -/
theorem isBetween_of_step (h : step state c = some (next, units)) (hstate : IsBetween state)
    (hc : c ≠ .char '\'') : IsBetween next := by
  cases state with
  | opening => exact absurd rfl hstate.1
  | behind => exact absurd rfl hstate.2
  | inside | escape | null | carriage => grind [IsBetween, step, insideStep, escapeStep]
  | unit missing value =>
      rw [step] at h
      split at h
      · grind [IsBetween]
      · obtain ⟨d, -, hd⟩ := Option.map_eq_some_iff.mp h
        grind [IsBetween]
  | braces value =>
      rw [step] at h
      split at h <;> obtain ⟨d, -, hd⟩ := Option.map_eq_some_iff.mp h <;> grind [IsBetween]

/-- What is read in front of the first quote, and what from it on. -/
theorem exists_of_literalFrom_append (hs : .char '\'' ∉ s) (hstate : IsBetween state)
    (h : literalFrom state (s ++ k) = some (units, rest)) :
    ∃ next front back, IsBetween next ∧ literalFrom next k = some (back, rest) ∧
      units = front ++ back ∧ cost front + credit next ≤ (Text.units s).length + credit state := by
  induction s generalizing state units with
  | nil => exact ⟨state, [], units, hstate, h, rfl, by simp [cost]⟩
  | cons c s ih =>
      obtain ⟨hc, hs⟩ := List.ne_and_not_mem_of_not_mem_cons hs
      obtain ⟨⟨between, us⟩, hstep, -⟩ := Option.bind_eq_some_iff.mp h
      have hbetween := isBetween_of_step hstep hstate (Ne.symm hc)
      rw [List.cons_append, literalFrom_cons_of_ne hstep hbetween.2] at h
      obtain ⟨⟨more, after⟩, hmore, heq⟩ := Option.map_eq_some_iff.mp h
      obtain ⟨rfl, rfl⟩ := Prod.mk.inj heq
      obtain ⟨next, front, back, hnext, hback, rfl, hcost⟩ := ih hs hbetween hmore
      refine ⟨next, us ++ front, back, hnext, hback, (List.append_assoc ..).symm, ?_⟩
      have hprice := price_step_le hstep
      rw [price_of_ne_behind hbetween.2] at hprice
      have hunits : Text.units (c :: s) = c.units ++ Text.units s := rfl
      rw [cost_append, hunits, List.length_append]
      omega

/-- Behind a backslash a quote is taken into the text; elsewhere it closes it, or nothing is
read. -/
theorem literalFrom_quote (hstate : IsBetween state)
    (h : literalFrom state (.char '\'' :: k) = some (units, rest)) :
    (state = .escape ∧ ∃ more, units = 39 :: more) ∨
      credit state = 2 ∧ units = [] ∧ rest = k := by
  have hclose (h : literalFrom .inside (.char '\'' :: k) = some (units, rest)) :
      units = [] ∧ rest = k := by
    obtain ⟨rfl, rfl⟩ := Prod.mk.inj (Option.some.inj h)
    exact ⟨rfl, rfl⟩
  cases state with
  | opening => exact absurd rfl hstate.1
  | behind => exact absurd rfl hstate.2
  | inside => exact .inr ⟨rfl, hclose h⟩
  | null => exact .inr ⟨rfl, hclose h⟩
  | carriage => exact .inr ⟨rfl, hclose h⟩
  | escape =>
      have htaken : literalFrom .escape (.char '\'' :: k) =
          behind [39] (literalFrom .inside k) := rfl
      rw [htaken] at h
      obtain ⟨⟨more, after⟩, -, heq⟩ := Option.map_eq_some_iff.mp h
      obtain ⟨rfl, -⟩ := Prod.mk.inj heq
      exact .inl ⟨rfl, more, rfl⟩
  | unit missing value =>
      have hnone : step (.unit missing value) (.char '\'') = none := by
        rw [step, if_neg (by simp)]
        rfl
      rw [literalFrom, hnone] at h
      cases h
  | braces value =>
      have hnone : step (.braces value) (.char '\'') = none := rfl
      rw [literalFrom, hnone] at h
      cases h

/-- A name without quotes and backslashes is read as its units if no line ends in it, and not at all
otherwise. -/
theorem literalFrom_plain (hname : ∀ c ∈ name, c ≠ .char '\'' ∧ c ≠ .char '\\') :
    literalFrom .inside (name ++ .char '\'' :: k) =
      if name.any endsLine then none else some (name.units, k) := by
  induction name with
  | nil => rfl
  | cons c name ih =>
      obtain ⟨⟨hquote, hback⟩, hname⟩ := List.forall_mem_cons.mp hname
      rw [List.any_cons, List.cons_append]
      cases hends : endsLine c with
      | true =>
          have hnone : step .inside c = none := by simp [step, insideStep, hquote, hback, hends]
          rw [literalFrom, hnone]
          rfl
      | false =>
          have hstep : step .inside c = some (.inside, c.units) := by
            simp [step, insideStep, hquote, hback, hends]
          rw [literalFrom_cons_of_ne hstep (by simp), ih hname, Bool.false_or]
          cases name.any endsLine <;> rfl

/-- The first quote of a text between quotes is in it or behind it. -/
theorem exists_first_quote (name k : Text) : ∃ s t k' : Text, .char '\'' ∉ s ∧ name = s ++ t ∧
    name ++ .char '\'' :: k = s ++ .char '\'' :: k' := by
  by_cases hquote : .char '\'' ∈ name
  · obtain ⟨s, t, rfl, hs⟩ := List.eq_append_cons_of_mem hquote
    exact ⟨s, .char '\'' :: t, t ++ .char '\'' :: k, hs, rfl, List.append_assoc ..⟩
  · exact ⟨name, [], k, hquote, (List.append_nil name).symm, rfl⟩

/-- What stands at an early place of two rows is in the first of them. -/
theorem mem_of_append_eq_append {front back s t : List Nat} {n : Nat}
    (h : front ++ n :: back = s ++ t) (hshort : front.length < s.length) : n ∈ s := by
  obtain ⟨as, rfl, hrest⟩ | ⟨bs, rfl, -⟩ := List.append_eq_append_iff.mp h
  · cases as with
    | nil => simp at hshort
    | cons m as =>
        obtain ⟨rfl, -⟩ := List.cons.inj hrest
        simp
  · rw [List.length_append] at hshort
    omega

/-- A name that comes out of quotes again has no quote and no backslash. -/
theorem notMem_of_literalFrom
    (h : literalFrom .inside (name ++ .char '\'' :: k) = some (name.units, rest)) :
    .char '\'' ∉ name ∧ .char '\\' ∉ name := by
  obtain ⟨s, t, k', hs, hname, htext⟩ := exists_first_quote name k
  have hparts : Text.units name = Text.units s ++ Text.units t := by
    rw [hname, LiteralUnion.units_append]
  rw [htext] at h
  obtain ⟨next, front, back, hnext, hback, hunits, hcost⟩ :=
    exists_of_literalFrom_append hs ⟨by simp, by simp⟩ h
  have hinside : credit .inside = 2 := rfl
  obtain ⟨rfl, more, rfl⟩ | ⟨hcredit, rfl, -⟩ := literalFrom_quote hnext hback
  · -- taken into the text, the quote would stand at an earlier place of the name
    have hescape : credit .escape = 3 := rfl
    have hshort : front.length < (Text.units s).length := by
      unfold cost at hcost
      omega
    have hmem : '\''.toNat ∈ Text.units s := mem_of_append_eq_append (hunits ▸ hparts) hshort
    exact absurd ((toNat_mem_units_iff (by decide)).mp hmem) hs
  · -- closed there, the name costs no more than its units
    have hle : (Text.units s).length ≤ (Text.units name).length := by
      rw [hparts, List.length_append]
      exact Nat.le_add_right ..
    rw [List.append_nil] at hunits
    rw [← hunits, hcredit, hinside, cost] at hcost
    have hnone : (Text.units name).count 39 = 0 ∧ (Text.units name).count 92 = 0 := by omega
    exact ⟨fun hmem => List.count_eq_zero.mp hnone.1 ((toNat_mem_units_iff (by decide)).mpr hmem),
      fun hmem => List.count_eq_zero.mp hnone.2 ((toNat_mem_units_iff (by decide)).mpr hmem)⟩

/-- **Which names come out of quotes again**: those without a quote, a backslash and an end of a
line. -/
theorem literalFrom_append_iff : literalFrom .inside (name ++ .char '\'' :: k) =
    some (name.units, rest) ↔
      (∀ c ∈ name, c ≠ .char '\'' ∧ c ≠ .char '\\' ∧ endsLine c = false) ∧ rest = k := by
  constructor
  · intro h
    obtain ⟨hquote, hback⟩ := notMem_of_literalFrom h
    have hplain : ∀ c ∈ name, c ≠ .char '\'' ∧ c ≠ .char '\\' := by
      intro c hc
      exact ⟨fun heq => hquote (heq ▸ hc), fun heq => hback (heq ▸ hc)⟩
    rw [literalFrom_plain hplain] at h
    obtain ⟨hends, hread⟩ := Option.ite_none_left_eq_some.mp h
    obtain ⟨-, rfl⟩ := Prod.mk.inj (Option.some.inj hread)
    rw [Bool.not_eq_true, List.any_eq_false] at hends
    exact ⟨fun c hc => ⟨(hplain c hc).1, (hplain c hc).2, by simpa using hends c hc⟩, rfl⟩
  · rintro ⟨hname, rfl⟩
    have hends : name.any endsLine = false := by
      rw [List.any_eq_false]
      intro c hc
      simp [(hname c hc).2.2]
    rw [literalFrom_plain fun c hc => ⟨(hname c hc).1, (hname c hc).2.1⟩, hends]
    rfl

end ClientScribe.Script
