import ClientScribe.Proofs.Script.Scalar

/-!
# Reading The Parts Of A Collection

A collection is printed over several lines: every part on its own line, a comma behind all but the
last one, and the closing bracket on a line of its own. The reader takes such a row apart again. It
does so whatever the parts are, as long as it reads every part up to its end (`row_of_reads`); and
where it reads the whole row as what is meant, it has read every part up to its end (`of_row`),
since only then the next part starts where it was printed.
-/

namespace ClientScribe.Script

open Client (singleQuoted)
open Json (lineStart bracketed skipSpace)

/-! ### Starts of texts -/

/-- A text that opens a value does so in single quotes, whatever stands behind it. -/
theorem Opens.quoted {t : Text} (h : Opens t) (k : Text) : Opens (singleQuoted t ++ k) := by
  obtain ⟨c, rest, rfl, hc⟩ := h
  by_cases hquote : c = '"'
  · exact ⟨'\'', singleQuoted rest ++ k, by rw [hquote]; rfl, rfl⟩
  · exact ⟨c, singleQuoted rest ++ k, by simp [singleQuoted, hquote], hc⟩

/-- In front of a value there is no space to pass over. -/
theorem skipSpace_of_opens {s : Text} (h : Opens s) : skipSpace s = s := by
  obtain ⟨c, rest, rfl, hc⟩ := h
  have hspace : Json.isSpace c = false := by
    simp only [isOpening, Bool.and_eq_true, Bool.not_eq_true'] at hc
    exact hc.1.1
  simp [skipSpace, CodePoint.satisfies, hspace]

/-- A text that opens a value is not empty. -/
theorem Opens.length_pos {t : Text} (h : Opens t) : 1 ≤ t.length := by
  obtain ⟨c, rest, rfl, -⟩ := h
  simp

/-- The start of a line is passed over. -/
theorem skipSpace_lineStart (level : Nat) (s : Text) :
    skipSpace (lineStart level ++ s) = skipSpace s := by
  have hspaces (n : Nat) : skipSpace (List.replicate n (.char ' ') ++ s) = skipSpace s := by
    refine List.dropWhile_append_of_pos fun c hc => ?_
    rw [(List.mem_replicate.mp hc).2]
    rfl
  exact hspaces (2 * level)

/-- The start of a line has no quotes to replace. -/
theorem singleQuoted_lineStart (level : Nat) :
    singleQuoted (lineStart level) = lineStart level := by
  simp [lineStart, singleQuoted]

/-! ### The text of a row -/

/-- A bracket that ends a row. -/
def IsClosing (c : Char) : Prop := c = ']' ∨ c = '\x7d'

/-- What stands behind the first part of a row: the other parts, each behind a comma, and the
closing bracket. -/
def rowTail (level : Nat) (closing : Char) : List Text → Text
  | [] => lineStart level ++ [.char closing]
  | t :: more => .char ',' :: (lineStart (level + 1) ++ (t ++ rowTail level closing more))

section Row

variable {level : Nat} {opening closing : Char} {t : Text} {ts : List Text} {k : Text}

/-- A collection with a first part is its opening bracket, this part and the tail of the row. -/
theorem bracketed_cons (level : Nat) (opening closing : Char) (t : Text) (ts : List Text) :
    bracketed level [.char opening] [.char closing] (t :: ts) =
      .char opening :: (lineStart (level + 1) ++ (t ++ rowTail level closing ts)) := by
  have hrow : ∀ t : Text, Text.intercalate ("," ++ lineStart (level + 1)) (t :: ts) ++
      (lineStart level ++ [.char closing]) = t ++ rowTail level closing ts := by
    induction ts with
    | nil => simp [Text.intercalate, rowTail]
    | cons next ts ih =>
        intro t
        have hnext := ih next
        simp only [Text.intercalate, List.intercalate_cons_cons, List.append_assoc] at hnext ⊢
        rw [hnext]
        rfl
  simp only [bracketed, List.isEmpty_cons, Bool.false_eq_true, if_false, List.append_assoc]
  rw [← hrow t]
  rfl

/-- What stands behind the opening bracket of a collection, in single quotes. -/
def inside (level : Nat) (closing : Char) (ts : List Text) (k : Text) : Text :=
  match ts with
  | [] => .char closing :: k
  | t :: ts =>
    lineStart (level + 1) ++ (singleQuoted t ++ (singleQuoted (rowTail level closing ts) ++ k))

/-- A collection in single quotes. -/
theorem quoted_bracketed (hopening : opening ≠ '"') (hclosing : IsClosing closing) :
    singleQuoted (bracketed level [.char opening] [.char closing] ts) ++ k =
      .char opening :: inside level closing ts k := by
  have hcons (s : Text) : singleQuoted (.char opening :: s) = .char opening :: singleQuoted s := by
    simp [singleQuoted, hopening]
  cases ts with
  | nil =>
      have hempty : bracketed level [.char opening] [.char closing] [] =
          .char opening :: [.char closing] := rfl
      rw [hempty, hcons]
      obtain rfl | rfl := hclosing <;> rfl
  | cons t ts =>
      simp only [bracketed_cons, hcons, singleQuoted_append, singleQuoted_lineStart, inside,
        List.cons_append, List.append_assoc]

/-- A collection is longer than each of its parts, and it has less parts than it is long. -/
theorem length_bracketed (level : Nat) (opening closing : Char) (ts : List Text) :
    ts.length + 1 < (bracketed level [.char opening] [.char closing] ts).length ∧
      ∀ t ∈ ts, t.length < (bracketed level [.char opening] [.char closing] ts).length := by
  cases ts with
  | nil => simp [bracketed]
  | cons t ts =>
      have htail : ts.length < (rowTail level closing ts).length ∧
          ∀ t ∈ ts, t.length ≤ (rowTail level closing ts).length := by
        induction ts with
        | nil => simp [rowTail]
        | cons next ts ih =>
            simp only [rowTail, List.length_cons, List.length_append, List.forall_mem_cons]
            refine ⟨by omega, by omega, fun t ht => ?_⟩
            have := ih.2 t ht
            omega
      simp only [bracketed_cons, List.length_cons, List.length_append, List.forall_mem_cons]
      have hline : 1 ≤ (lineStart (level + 1)).length := by simp [lineStart]
      refine ⟨by omega, by omega, fun t ht => ?_⟩
      have := htail.2 t ht
      omega

/-- A part of a row ends where the tail of the row starts. -/
theorem delimited_rowTail : Delimited (singleQuoted (rowTail level closing ts) ++ k) := by
  intro c hc
  cases ts with
  | nil => exact .inr (Option.some.inj hc).symm
  | cons t ts => exact .inl (Option.some.inj hc).symm

/-- Behind the last part stands the closing bracket. -/
theorem behindPart_rowTail_nil (hclosing : IsClosing closing) :
    behindPart closing (singleQuoted (rowTail level closing []) ++ k) = some (false, k) := by
  rw [rowTail, singleQuoted_append, singleQuoted_lineStart, List.append_assoc, behindPart,
    skipSpace_lineStart]
  obtain rfl | rfl := hclosing <;> rfl

/-- Behind any other part stands a comma, and behind it the next part. -/
theorem behindPart_rowTail_cons (hclosing : IsClosing closing) (ht : Opens t) :
    behindPart closing (singleQuoted (rowTail level closing (t :: ts)) ++ k) =
      some (true, singleQuoted t ++ (singleQuoted (rowTail level closing ts) ++ k)) := by
  have hcomma : singleQuoted (rowTail level closing (t :: ts)) ++ k = .char ',' ::
      (lineStart (level + 1) ++
        (singleQuoted t ++ (singleQuoted (rowTail level closing ts) ++ k))) := by
    rw [← List.append_assoc (singleQuoted t), ← singleQuoted_append,
      ← singleQuoted_lineStart (level + 1), ← List.append_assoc, ← singleQuoted_append]
    rfl
  have hstays (s : Text) : skipSpace (.char ',' :: s) = .char ',' :: s := rfl
  have hne : (',' == closing) = false := by obtain rfl | rfl := hclosing <;> rfl
  rw [hcomma, behindPart, hstays]
  simp only [hne, Bool.false_eq_true, if_false, beq_self_eq_true, if_true, skipSpace_lineStart,
    skipSpace_of_opens (ht.quoted _)]

end Row

/-! ### Reading a row -/

section Reading

variable {α : Type} {part : Text → Option (α × Text)} {level : Nat} {closing : Char}

/-- A part with a comma and more parts behind it, or with the closing bracket. -/
theorem row_succ (hclosing : IsClosing closing) (fuel : Nat) {s : Text} (hs : Opens s) :
    row part closing (fuel + 1) s = (part s).bind fun a => (behindPart closing a.2).bind fun g =>
      if g.1 then (row part closing fuel g.2).map fun m => (a.1 :: m.1, m.2)
      else some ([a.1], g.2) := by
  have hopen : s.head? ≠ some (.char closing) := by
    obtain ⟨c, rest, rfl, hc⟩ := hs
    intro heq
    obtain rfl : c = closing := by simpa using heq
    obtain rfl | rfl := hclosing <;> exact absurd hc (by decide)
  rw [row, if_neg hopen]
  refine Option.bind_congr fun a _ => Option.bind_congr fun g _ => ?_
  obtain ⟨_ | _, rest⟩ := g
  · rfl
  · cases hmore : row part closing fuel rest <;> simp [hmore]

/-- A printed part that is read up to its end, whatever stands behind it. -/
def Reads (part : Text → Option (α × Text)) (t : Text) (a : α) : Prop :=
  Opens t ∧ ∀ k, Delimited k → part (singleQuoted t ++ k) = some (a, k)

/-- A row is read part by part. -/
theorem row_of_reads (hclosing : IsClosing closing) {t : Text} {ts : List Text} {a : α}
    {as : List α}
    (ha : Reads part t a) (has : List.Forall₂ (Reads part) ts as) {fuel : Nat}
    (hfuel : ts.length < fuel) (k : Text) :
    row part closing fuel (singleQuoted t ++ (singleQuoted (rowTail level closing ts) ++ k)) =
      some (a :: as, k) := by
  induction has generalizing t a fuel with
  | nil =>
      obtain ⟨least, rfl⟩ : ∃ least, fuel = least + 1 := ⟨fuel - 1, by omega⟩
      rw [row_succ hclosing least (ha.1.quoted _), ha.2 _ delimited_rowTail, Option.bind_some,
        behindPart_rowTail_nil hclosing]
      rfl
  | cons hnext _ ih =>
      rw [List.length_cons] at hfuel
      obtain ⟨least, rfl⟩ : ∃ least, fuel = least + 1 := ⟨fuel - 1, by omega⟩
      rw [row_succ hclosing least (ha.1.quoted _), ha.2 _ delimited_rowTail, Option.bind_some,
        behindPart_rowTail_cons hclosing hnext.1, Option.bind_some, if_pos rfl,
        ih hnext (Nat.lt_of_succ_lt_succ hfuel)]
      rfl

/-- The parts of a collection are read. -/
theorem row_inside_of_reads (hclosing : IsClosing closing) {ts : List Text} {as : List α}
    (h : List.Forall₂ (Reads part) ts as) {fuel : Nat} (hfuel : ts.length < fuel) (k : Text) :
    row part closing fuel (skipSpace (inside level closing ts k)) = some (as, k) := by
  cases h with
  | nil =>
      obtain ⟨least, rfl⟩ : ∃ least, fuel = least + 1 := ⟨fuel - 1, by omega⟩
      obtain rfl | rfl := hclosing <;> rfl
  | cons ha has =>
      rw [inside, skipSpace_lineStart, skipSpace_of_opens (ha.1.quoted _)]
      exact row_of_reads hclosing ha has (Nat.lt_of_succ_lt hfuel) k

/-- A printed part of which it follows from what is read that it has been read up to its end, and
that it is good. -/
def ReadsOnly {β : Type} (part : Text → Option (α × Text)) (means : β → α → Prop) (good : β → Prop)
    (b : β) (t : Text) : Prop :=
  Opens t ∧ ∀ {k r a}, Delimited k → part (singleQuoted t ++ k) = some (a, r) → means b a →
    good b ∧ r = k

section Means

variable {β : Type} {means : β → α → Prop} {good : β → Prop} {b : β} {bs : List β} {t : Text}
  {fuel : Nat} {r : Text} {as : List α}

/-- The first part of a row that is read as what it means: it is good, and reading went on behind
it. -/
theorem first_of_row (hclosing : IsClosing closing) (hb : ReadsOnly part means good b t)
    {tail : Text}
    (htail : Delimited tail) (hread : row part closing fuel (singleQuoted t ++ tail) = some (as, r))
    (hmeans : List.Forall₂ means (b :: bs) as) :
    good b ∧ ∃ least goesOn next more, behindPart closing tail = some (goesOn, next) ∧
      List.Forall₂ means bs more ∧ (goesOn = true → row part closing least next = some (more, r)) ∧
      (goesOn = false → next = r) := by
  cases fuel with
  | zero => simp [row] at hread
  | succ least =>
      rw [row_succ hclosing least (hb.1.quoted _)] at hread
      obtain ⟨⟨a, rest⟩, ha, hread⟩ := Option.bind_eq_some_iff.mp hread
      obtain ⟨⟨goesOn, next⟩, hnext, hread⟩ := Option.bind_eq_some_iff.mp hread
      obtain ⟨more, rfl, hgo, hend⟩ : ∃ more, as = a :: more ∧
          (goesOn = true → row part closing least next = some (more, r)) ∧
          (goesOn = false → next = r) := by
        cases goesOn with
        | false =>
            obtain ⟨rfl, rfl⟩ := Prod.mk.inj (Option.some.inj hread)
            exact ⟨[], rfl, by simp, fun _ => rfl⟩
        | true =>
            obtain ⟨⟨more, r'⟩, hmore, heq⟩ := Option.map_eq_some_iff.mp hread
            obtain ⟨rfl, rfl⟩ := Prod.mk.inj heq
            exact ⟨more, rfl, fun _ => hmore, by simp⟩
      obtain ⟨hfirst, hmore⟩ := List.forall₂_cons.mp hmeans
      obtain ⟨hgood, rfl⟩ := hb.2 htail ha hfirst
      exact ⟨hgood, least, goesOn, next, more, hnext, hmore, hgo, hend⟩

/-- In a row that is read as what it means every part is good, and the row is read up to its end. -/
theorem of_row (hclosing : IsClosing closing) {ts : List Text} {k : Text}
    (hb : ReadsOnly part means good b t) (hbs : List.Forall₂ (ReadsOnly part means good) bs ts)
    (hread : row part closing fuel
      (singleQuoted t ++ (singleQuoted (rowTail level closing ts) ++ k)) = some (as, r))
    (hmeans : List.Forall₂ means (b :: bs) as) : (∀ b' ∈ b :: bs, good b') ∧ r = k := by
  induction hbs generalizing b t fuel as with
  | nil =>
      obtain ⟨hgood, least, goesOn, next, more, hnext, -, -, hend⟩ :=
        first_of_row hclosing hb delimited_rowTail hread hmeans
      rw [behindPart_rowTail_nil hclosing] at hnext
      obtain ⟨rfl, rfl⟩ := Prod.mk.inj (Option.some.inj hnext)
      exact ⟨by simpa using hgood, (hend rfl).symm⟩
  | cons hfirst _ ih =>
      obtain ⟨hgood, least, goesOn, next, more, hnext, hmore, hgo, -⟩ :=
        first_of_row hclosing hb delimited_rowTail hread hmeans
      rw [behindPart_rowTail_cons hclosing hfirst.1] at hnext
      obtain ⟨rfl, rfl⟩ := Prod.mk.inj (Option.some.inj hnext)
      obtain ⟨hrest, hk⟩ := ih hfirst (hgo rfl) hmore
      exact ⟨List.forall_mem_cons.mpr ⟨hgood, hrest⟩, hk⟩

/-- In a collection that is read as what it means every part is good, and the collection is read up
to its end. -/
theorem of_row_inside (hclosing : IsClosing closing) {ts : List Text} {k : Text}
    (h : List.Forall₂ (ReadsOnly part means good) bs ts)
    (hread : row part closing fuel (skipSpace (inside level closing ts k)) = some (as, r))
    (hmeans : List.Forall₂ means bs as) : (∀ b ∈ bs, good b) ∧ r = k := by
  cases h with
  | nil =>
      refine ⟨by simp, ?_⟩
      have hend : skipSpace (inside level closing [] k) = .char closing :: k := by
        obtain rfl | rfl := hclosing <;> rfl
      cases fuel with
      | zero => simp [row] at hread
      | succ fuel =>
          rw [hend, row, List.head?_cons, if_pos rfl] at hread
          exact (congrArg Prod.snd (Option.some.inj hread)).symm
  | cons hb hbs =>
      rw [inside, skipSpace_lineStart, skipSpace_of_opens (hb.1.quoted _)] at hread
      exact of_row hclosing hb hbs hread hmeans

end Means

end Reading

end ClientScribe.Script
