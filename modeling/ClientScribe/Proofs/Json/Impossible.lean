import ClientScribe.Json.Reader
import ClientScribe.Proofs.Result

/-!
# What a Document in JSON Cannot Name

A reader finds a document in JSON impossible in two places only: one level further inwards than it
may go, and at a whole number with more digits than a number may have. Both are seen in the text: a
level costs an opening bracket or brace, and the digits stand there one behind the other
(`Overruns`).

Every reader keeps one contract (`Contained`): what it leaves is an end of its text, and it finds
something impossible only in a text that overruns. The contract goes along a chain of readers
(`Contained.bind`) and one level inwards (`Contained.inwards`), and so from the readers of literals
and numbers to the reader of documents (`overruns_of_read_eq_impossible`).
-/

namespace ClientScribe.Json

open Document (ReadFault Value ofPairs)

variable {α β : Type} {depth fuel : Nat} {c : CodePoint} {rest s text : Text} {a : α}
  {x : Except ReadFault (α × Text)}

/-- Whether a code point starts a collection. -/
def opens (c : CodePoint) : Bool :=
  c == .char '[' || c == .char '\x7b'

/-- A text has more openings than a number, or more digits in a row than a number may have. -/
def Overruns (depth : Nat) (s : Text) : Prop :=
  depth < s.countP opens ∨
    ∃ digits : List Char, Text.ofChars digits <:+: s ∧ digits.all Char.isDigit = true ∧
      Decimal.mostDigits < digits.length

/-- What overruns at the end of a text does so in the text. -/
theorem Overruns.of_suffix (h : Overruns depth rest) (hrest : rest <:+ s) : Overruns depth s := by
  obtain hopens | ⟨digits, hinfix, hdigits, hlong⟩ := h
  · exact .inl (Nat.lt_of_lt_of_le hopens hrest.sublist.countP_le)
  · exact .inr ⟨digits, hinfix.trans hrest.isInfix, hdigits, hlong⟩

/-- In front of an opening one level more is left. -/
theorem Overruns.cons (h : Overruns depth rest) (hc : opens c = true) :
    Overruns (depth + 1) (c :: rest) := by
  obtain hopens | ⟨digits, hinfix, hdigits, hlong⟩ := h
  · exact .inl (by rw [List.countP_cons_of_pos hc]; exact Nat.succ_lt_succ hopens)
  · exact .inr ⟨digits, hinfix.trans (List.suffix_cons c rest).isInfix, hdigits, hlong⟩

/-! ### The contract of a reader -/

/-- A reader of a text leaves an end of the text, and the text overruns if it is impossible. -/
structure Contained (depth : Nat) (s : Text) (x : Except ReadFault (α × Text)) : Prop where
  suffix : ∀ a rest, x = .ok (a, rest) → rest <:+ s
  overruns : x = .error .impossible → Overruns depth s

namespace Contained

/-- A reading that ends well is contained if it leaves an end of its text. -/
theorem ok (h : rest <:+ s) : Contained depth s (.ok (a, rest)) where
  suffix := by rintro _ _ ⟨⟩; exact h
  overruns := nofun

/-- A reading of a malformed text is contained: it leaves nothing. -/
theorem malformed : Contained depth s (.error .malformed : Except ReadFault (α × Text)) where
  suffix := nofun
  overruns := nofun

/-- A reader of an end of a text is one of the text. -/
theorem of_suffix (h : Contained depth rest x) (hrest : rest <:+ s) : Contained depth s x where
  suffix a behind hx := (h.suffix a behind hx).trans hrest
  overruns hx := (h.overruns hx).of_suffix hrest

/-- A reader behind white space. -/
theorem spaced (h : Contained depth (skipSpace s) x) : Contained depth s x :=
  h.of_suffix (List.dropWhile_suffix _)

/-- A reader behind a code point. -/
theorem cons (h : Contained depth rest x) (c : CodePoint) : Contained depth (c :: rest) x :=
  h.of_suffix (List.suffix_cons c rest)

/-- Readers one behind the other. -/
theorem bind {f : α × Text → Except ReadFault (β × Text)} (hx : Contained depth s x)
    (hf : ∀ a rest, Contained depth rest (f (a, rest))) : Contained depth s (x >>= f) := by
  match x, hx with
  | .error .malformed, _ => exact malformed
  | .error .impossible, hx => exact ⟨nofun, fun _ => hx.overruns rfl⟩
  | .ok (a, rest), hx => exact (hf a rest).of_suffix (hx.suffix a rest rfl)

/-- A reader whose value is put to use. -/
theorem map (h : Contained depth s x) (f : α → β) :
    Contained depth s (x >>= fun read => .ok (f read.1, read.2)) :=
  h.bind fun _ _ => .ok List.suffix_rfl

/-- A reader one level further inwards, behind an opening. -/
theorem inwards {f : Nat → Except ReadFault (α × Text)} (hc : opens c = true)
    (hf : ∀ depth, Contained depth rest (f depth)) :
    Contained depth (c :: rest) (inwards depth >>= f) := by
  cases depth with
  | zero =>
      refine ⟨nofun, fun _ => .inl ?_⟩
      rw [List.countP_cons_of_pos hc]
      exact Nat.succ_pos _
  | succ depth =>
      have hinner : Contained depth rest (f depth) := hf depth
      exact ⟨fun a behind hx => (hinner.suffix a behind hx).trans (List.suffix_cons c rest),
        fun hx => (hinner.overruns hx).cons hc⟩

end Contained

/-! ### The readers -/

/-- The reader of literals keeps the contract. -/
theorem contained_literalFrom (state : LiteralState) (read s : Text) :
    Contained depth s (literalFrom state read s) := by
  induction s generalizing state read with
  | nil => exact .malformed
  | cons c s ih =>
      have hrest : s <:+ c :: s := List.suffix_cons c s
      cases state with
      | plain high =>
          rw [literalFrom]
          split
          · exact .ok hrest
          · split
            · exact (ih _ _).cons c
            · split
              · exact .malformed
              · exact (ih _ _).cons c
      | escape high =>
          rw [literalFrom]
          split
          · exact (ih _ _).cons c
          · split
            · exact (ih _ _).cons c
            · exact .malformed
      | unit high missing n =>
          rw [literalFrom]
          split
          · exact .malformed
          · split
            · exact (ih _ _).cons c
            · exact (ih _ _).cons c

/-- The digits of a whole number are digits that its characters start with. -/
theorem wholeDigits_spec (s : List Char) :
    (wholeDigits s).1 <+: s ∧ (wholeDigits s).1.all Char.isDigit = true := by
  rw [wholeDigits.eq_def]
  split
  · next rest => exact ⟨⟨rest, rfl⟩, rfl⟩
  · exact ⟨List.takeWhile_prefix _, List.all_takeWhile⟩

/-- Characters of a number that is impossible have a whole number with too many digits. -/
theorem exists_digits_of_numberOf {front : List Char}
    (h : numberOf front = .error .impossible) :
    ∃ digits, digits <:+: front ∧ digits.all Char.isDigit = true ∧
      Decimal.mostDigits < digits.length := by
  rw [numberOf.eq_def] at h
  split at h
  next negative body heq =>
  have hbody : body <:+ front := by
    split at heq
    · cases heq; exact List.suffix_cons _ _
    · cases heq; exact List.suffix_rfl
  obtain ⟨hwhole, hdigits⟩ := wholeDigits_spec body
  refine ⟨_, hwhole.isInfix.trans hbody.isInfix, hdigits, ?_⟩
  grind

/-- The characters that a text starts with are a start of it. -/
theorem ofChars_filterMap_takeWhile (p : Char → Bool) (s : Text) :
    Text.ofChars ((s.takeWhile (·.satisfies p)).filterMap CodePoint.char?) =
      s.takeWhile (·.satisfies p) := by
  induction s with
  | nil => rfl
  | cons c s ih =>
      by_cases hc : c.satisfies p = true
      · obtain ⟨c, rfl⟩ : ∃ char, c = .char char := by
          cases c with
          | char c => exact ⟨c, rfl⟩
          | half n => cases hc
        rw [List.takeWhile_cons_of_pos hc]
        exact congrArg (CodePoint.char c :: ·) ih
      · rw [List.takeWhile_cons_of_neg hc]
        rfl

/-- The reader of numbers keeps the contract. -/
theorem contained_number (s : Text) : Contained depth s (number s) where
  suffix v rest h := by
    obtain ⟨⟨n, behind⟩, -, h⟩ := Result.bind_eq_ok_iff.mp h
    cases h
    exact List.drop_suffix _ _
  overruns h := by
    obtain hfront | ⟨read, -, hread⟩ := Result.bind_eq_error_iff.mp h
    · obtain ⟨digits, ⟨before, behind, hinfix⟩, hdigits, hlong⟩ :=
        exists_digits_of_numberOf hfront
      refine .inr ⟨digits, List.IsInfix.trans ⟨Text.ofChars before, Text.ofChars behind, ?_⟩
        (List.takeWhile_prefix (·.satisfies isNumberChar)).isInfix, hdigits, hlong⟩
      rw [← ofChars_filterMap_takeWhile, ← hinfix]
      simp [Text.ofChars]
    · cases hread

/-- The reader of words and numbers keeps the contract. -/
theorem contained_plainValue (s : Text) : Contained depth s (plainValue s) := by
  rw [plainValue]
  split
  · exact .ok (List.drop_suffix _ _)
  · exact contained_number s

section Step

variable (hvalue : ∀ depth s, Contained depth s (value depth fuel s))
  (helements : ∀ depth s, Contained depth s (elements depth fuel s))
  (hfields : ∀ depth s, Contained depth s (fields depth fuel s))

include helements hfields in
/-- One step of the reader of values. -/
theorem contained_value : Contained depth s (value depth (fuel + 1) s) := by
  rw [value.eq_def]
  dsimp only
  split
  · next rest =>
    exact ((contained_literalFrom _ _ rest).map Value.str).cons _
  · next rest =>
    refine .inwards rfl fun depth => .spaced ?_
    split
    · next heq =>
      rw [heq]
      exact .ok (List.suffix_cons _ _)
    · exact (helements depth _).map Value.list
  · next rest =>
    refine .inwards rfl fun depth => .spaced ?_
    split
    · next heq =>
      rw [heq]
      exact .ok (List.suffix_cons _ _)
    · exact (hfields depth _).map fun fields => Value.map (ofPairs fields)
  · exact contained_plainValue s

include hvalue helements in
/-- One step of the reader of elements. -/
theorem contained_elements : Contained depth s (elements depth (fuel + 1) s) := by
  rw [elements.eq_def]
  refine (hvalue depth s).bind fun v rest => .spaced ?_
  dsimp only
  split
  · next heq =>
    rw [heq]
    exact .ok (List.suffix_cons _ _)
  · next rest heq =>
    rw [heq]
    exact .cons (.spaced ((helements depth _).map (v :: ·))) _
  · exact .malformed

include hvalue hfields in
/-- One step of the reader of fields. -/
theorem contained_fields : Contained depth s (fields depth (fuel + 1) s) := by
  rw [fields.eq_def]
  dsimp only
  split
  · next rest =>
    refine .cons ((contained_literalFrom _ _ rest).bind fun key rest => .spaced ?_) _
    dsimp only
    split
    · next rest heq =>
      rw [heq]
      refine .cons (.spaced ((hvalue depth _).bind fun v rest => .spaced ?_)) _
      dsimp only
      split
      · next heq =>
        rw [heq]
        exact .ok (List.suffix_cons _ _)
      · next rest heq =>
        rw [heq]
        exact .cons (.spaced ((hfields depth _).map ((.str key, v) :: ·))) _
      · exact .malformed
    · exact .malformed
  · exact .malformed

end Step

/-- The readers of values, elements and fields keep the contract. -/
theorem contained (fuel : Nat) : (∀ depth s, Contained depth s (value depth fuel s)) ∧
    (∀ depth s, Contained depth s (elements depth fuel s)) ∧
      ∀ depth s, Contained depth s (fields depth fuel s) := by
  induction fuel with
  | zero => exact ⟨fun _ _ => .malformed, fun _ _ => .malformed, fun _ _ => .malformed⟩
  | succ fuel ih =>
      obtain ⟨hvalue, helements, hfields⟩ := ih
      exact ⟨fun depth s => contained_value helements hfields,
        fun depth s => contained_elements hvalue helements,
        fun depth s => contained_fields hvalue hfields⟩

/-- **What is impossible in JSON**: a document that is impossible has more openings than it may have
levels, or more digits in a row than a number may have. -/
theorem overruns_of_read_eq_impossible (h : read depth text = .error .impossible) :
    Overruns depth text := by
  have hvalue := (contained (2 * text.length + 2)).1 depth (skipSpace text)
  rw [read] at h
  obtain hread | ⟨⟨v, rest⟩, -, hread⟩ := Result.bind_eq_error_iff.mp h
  · exact (hvalue.overruns hread).of_suffix (List.dropWhile_suffix _)
  · dsimp only at hread
    split at hread <;> cases hread

end ClientScribe.Json
