import ClientScribe.Proofs.Script.Reader
import ClientScribe.Schema.TypeExpr

/-!
# Reading Unions Of Text Literals

A union of texts is written as literals in single quotes with bars between them. `LiteralUnion.read`
reads a whole text as one, with all escapes of the client's language. A literal may be longer than
it was meant to be: behind a backslash the closing quote is a part of it, and so is the bar behind
that quote. So the reader is a machine over the whole text, not one for a single literal.

A literal puts a backslash in front of each quote, and of nothing else. `read_unionText_iff` says
which texts survive this: those without backslashes and without ends of lines. That a backslash
never survives is shown by counting. Each step of the machine pays for the units that it yields with
the units that it reads (`price_step_le`), and a quote or a backslash costs two; a union is too
short to pay for its texts by as many units as they have backslashes.

The texts can be recovered from a union even so (`unionText_inj`), by someone who knows where the
literals start.
-/

namespace ClientScribe.Script.LiteralUnion

open Schema (literalPoint quotedLiteral)

/-- Where the reader stands. -/
inductive State where
  /-- In front of the opening quote of a literal. -/
  | opening
  | inside
  /-- Behind a backslash. -/
  | escape
  /-- Behind the escape of the null character, which no digit may follow. -/
  | null
  /-- Behind a backslash and a carriage return, which make one line end with a line feed. -/
  | carriage
  /-- So many hexadecimal digits are still to come, behind digits of a value. -/
  | unit (missing value : Nat)
  /-- Between braces, behind the digits of a value if there are any. -/
  | braces (value : Option Nat)
  /-- Behind the closing quote of a literal. -/
  | behind
  deriving DecidableEq

/-- The last code point there is. -/
def lastCodePoint : Nat := 0x10FFFF

/-- The line ends that a backslash takes out of a literal; two of them may also stand bare. -/
def isLineBreak (c : CodePoint) : Bool :=
  endsLine c || c == .char '\u2028' || c == .char '\u2029'

/-- The value of a hexadecimal digit. -/
def hexDigit? (c : CodePoint) : Option Nat := c.char?.bind Text.hexValue?

/-- A step between quotes. -/
def insideStep (c : CodePoint) : Option (State × List Nat) :=
  if c == .char '\'' then some (.behind, [])
  else if c == .char '\\' then some (.escape, [])
  else if endsLine c then none
  else some (.inside, c.units)

/-- A step behind a backslash. Of the digits only zero makes an escape. -/
def escapeStep (c : CodePoint) : Option (State × List Nat) :=
  if c == .char 'u' then some (.unit 4 0, [])
  else if c == .char 'x' then some (.unit 2 0, [])
  else if c == .char '0' then some (.null, [0])
  else if c.satisfies Char.isDigit then none
  else if c == .char '\r' then some (.carriage, [])
  else if isLineBreak c then some (.inside, [])
  else some (.inside, escapedUnits c)

/-- A step of the reader: the next state, and the units that are read. -/
def step : State → CodePoint → Option (State × List Nat)
  | .opening, c => if c == .char '\'' then some (.inside, []) else none
  | .inside, c => insideStep c
  | .escape, c => escapeStep c
  | .null, c => if c.satisfies Char.isDigit then none else insideStep c
  | .carriage, c => if c == .char '\n' then some (.inside, []) else insideStep c
  | .unit missing value, c =>
    -- braces may stand in place of four digits
    if missing == 4 && c == .char '\x7b' then some (.braces none, [])
    else (hexDigit? c).map fun d =>
      let value := 16 * value + d
      if missing ≤ 1 then (.inside, [value]) else (.unit (missing - 1) value, [])
  | .braces value, c =>
    if c == .char '\x7d' then
      (value.filter (· ≤ lastCodePoint)).map fun n => (.inside, (CodePoint.ofNat n).units)
    else (hexDigit? c).map fun d => (.braces (some (16 * value.getD 0 + d)), [])
  | .behind, c => if c == .char '|' then some (.opening, []) else none

/-- Units in front of the first of some texts. -/
def inFront (units : List Nat) : List (List Nat) → List (List Nat)
  | [] => []
  | text :: more => (units ++ text) :: more

/-- What a step adds to the texts that are read behind it: a closing quote ends one. -/
def attach (next : State) (units : List Nat) (texts : List (List Nat)) : List (List Nat) :=
  if next = .behind then [] :: texts else inFront units texts

/-- The units of the texts that are read from a state on. Between quotes the first of them is the
rest of one. -/
def readFrom : State → Text → Option (List (List Nat))
  | state, [] => if state = .behind then some [] else none
  | state, c :: rest => do
    let (next, units) ← step state c
    let texts ← readFrom next rest
    return attach next units texts

/-- The units of the texts of a union. -/
def read (s : Text) : Option (List (List Nat)) := readFrom .opening s

/-- Texts as a union of literals. -/
def unionText (vs : List Text) : Text := Text.intercalate "|" (vs.map quotedLiteral)

/-- A code point that does not stand for itself in a literal although nothing is put in front
of it. -/
def isAltered (c : CodePoint) : Bool := c == .char '\\' || endsLine c

variable {c : CodePoint} {v w : Text} {vs ws : List Text} {state next : State} {units : List Nat}
  {texts : List (List Nat)} {k s : Text}

/-! ### Unions one literal after the other -/

/-- What stands between the quotes of a literal. -/
def body (v : Text) : Text := v.flatMap literalPoint

/-- The literals behind the first one, each with its bar. -/
def furtherLiterals (vs : List Text) : Text := vs.flatMap fun v => .char '|' :: quotedLiteral v

/-- What stands between the quotes is written code point by code point. -/
theorem body_cons (c : CodePoint) (v : Text) : body (c :: v) = literalPoint c ++ body v := by
  simp [body]

/-- A literal in front of a text is its opening quote, its body and its closing quote. -/
theorem quotedLiteral_append (v k : Text) :
    quotedLiteral v ++ k = .char '\'' :: (body v ++ .char '\'' :: k) := by
  simp [quotedLiteral, body, Text.ofString, Text.ofChars]

/-- The literals behind the first one are a bar, a literal and what comes behind it. -/
theorem furtherLiterals_cons (v : Text) (vs : List Text) :
    furtherLiterals (v :: vs) = .char '|' :: (quotedLiteral v ++ furtherLiterals vs) := by
  simp [furtherLiterals]

/-- A union is its first literal and the further ones. -/
theorem unionText_cons (v : Text) (vs : List Text) :
    unionText (v :: vs) = quotedLiteral v ++ furtherLiterals vs := by
  induction vs generalizing v with
  | nil => simp [unionText, furtherLiterals, Text.intercalate]
  | cons w vs ih =>
      have hcons : unionText (v :: w :: vs) = quotedLiteral v ++ "|" ++ unionText (w :: vs) := by
        simp [unionText, Text.intercalate, List.intercalate_cons_cons]
      rw [hcons, ih, furtherLiterals_cons, List.append_assoc]
      rfl

/-! ### Texts that are read back -/

/-- A step yields its units in front of what is read behind it. -/
theorem readFrom_of_step (h : step state c = some (next, units)) (s : Text) :
    readFrom state (c :: s) = (readFrom next s).map (attach next units) := by
  rw [readFrom, h, Option.map_eq_bind]
  rfl

/-- A step that yields nothing and ends no text. -/
theorem readFrom_of_silent (h : step state c = some (next, [])) (hnext : next ≠ .behind)
    (s : Text) : readFrom state (c :: s) = readFrom next s := by
  have hattach : attach next [] = id := by
    funext texts
    cases texts <;> simp [attach, hnext, inFront]
  rw [readFrom_of_step h, hattach, Option.map_id, id]

/-- Behind a bar another literal opens. -/
theorem readFrom_bar (s : Text) : readFrom .behind (.char '|' :: s) = readFrom .opening s :=
  readFrom_of_silent rfl (by decide) s

/-- Further literals are read as the first of them is, from behind its opening quote on. -/
theorem readFrom_furtherLiterals_cons (v : Text) (vs : List Text) :
    readFrom .behind (furtherLiterals (v :: vs)) =
      readFrom .inside (body v ++ .char '\'' :: furtherLiterals vs) := by
  have hquote (s : Text) : readFrom .opening (.char '\'' :: s) = readFrom .inside s :=
    readFrom_of_silent rfl (by decide) s
  rw [furtherLiterals_cons, readFrom_bar, quotedLiteral_append, hquote]

/-- The closing quote ends a text, to which nothing is added. -/
theorem readFrom_quote (k : Text) :
    readFrom .inside (.char '\'' :: k) = (readFrom .behind k).map ([] :: ·) :=
  readFrom_of_step rfl k

/-- A code point that is not altered is read as its units. -/
theorem readFrom_literalPoint (hc : isAltered c = false) (k : Text) :
    readFrom .inside (literalPoint c ++ k) = (readFrom .inside k).map (inFront c.units) := by
  obtain ⟨hback, hends⟩ := Bool.or_eq_false_iff.mp hc
  by_cases hquote : c = .char '\''
  · subst hquote
    exact (readFrom_of_silent (c := .char '\\') rfl (by decide) _).trans (readFrom_of_step rfl k)
  · have hpoint : literalPoint c = [c] := by simp [literalPoint, hquote]
    have hstep : step .inside c = some (.inside, c.units) := by
      simp [step, insideStep, hquote, hback, hends]
    rw [hpoint, List.singleton_append, readFrom_of_step hstep]
    rfl

/-- A text without altered code points is read as its units, up to the closing quote. -/
theorem readFrom_body (hv : ∀ c ∈ v, isAltered c = false) (k : Text) :
    readFrom .inside (body v ++ .char '\'' :: k) = (readFrom .behind k).map (v.units :: ·) := by
  induction v with
  | nil => exact readFrom_quote k
  | cons c v ih =>
      obtain ⟨hc, hv⟩ := List.forall_mem_cons.mp hv
      rw [body_cons, List.append_assoc, readFrom_literalPoint hc, ih hv, Option.map_map]
      rfl

/-- Texts without altered code points are read back, one after the other. -/
theorem readFrom_furtherLiterals (hvs : ∀ v ∈ vs, ∀ c ∈ v, isAltered c = false) :
    readFrom .behind (furtherLiterals vs) = some (vs.map Text.units) := by
  induction vs with
  | nil => rfl
  | cons v vs ih =>
      obtain ⟨hv, hvs⟩ := List.forall_mem_cons.mp hvs
      rw [readFrom_furtherLiterals_cons, readFrom_body hv, ih hvs]
      rfl

/-! ### What a union can pay for -/

/-- What units cost: each of them one, and a quote or a backslash two. -/
def cost (units : List Nat) : Nat := units.length + units.count 39 + units.count 92

/-- What texts cost with the quotes around them and the bars in front of them. -/
def totalCost (texts : List (List Nat)) : Nat := (texts.map fun text => cost text + 3).sum

/-- What a state has left of what was read already, or owes. -/
def credit : State → Nat
  | .opening => 1
  | .inside | .null | .carriage => 2
  | .escape => 3
  | .unit _ _ | .braces _ => 4
  | .behind => 0

/-- Units one after the other cost what they cost one by one. -/
theorem cost_append (a b : List Nat) : cost (a ++ b) = cost a + cost b := by
  simp only [cost, List.length_append, List.count_append]
  omega

/-- A unit below the halves of pairs stands for its character alone. -/
theorem count_units {d : Char} (hd : d.toNat < 0xD800) (c : CodePoint) :
    c.units.count d.toNat = if c = .char d then 1 else 0 := by
  cases c with
  | half n =>
      have hne : CodePoint.firstHalf + n.val ≠ d.toNat := by
        simp [CodePoint.firstHalf]
        omega
      simp [CodePoint.units, CodePoint.toNat, hne]
  | char c =>
      by_cases hsmall : c.toNat < 0x10000
      · simp [CodePoint.units, hsmall, List.count_singleton, Char.toNat_inj, CodePoint.char.injEq]
      · have hne : c ≠ d := by
          rintro rfl
          omega
        have hfirst : 0xD800 + (c.toNat - 0x10000) / 0x400 ≠ d.toNat := by omega
        have hsecond : 0xDC00 + (c.toNat - 0x10000) % 0x400 ≠ d.toNat := by omega
        simp [CodePoint.units, hsmall, hne, hfirst, hsecond]

/-- A code point costs what is written for it in a literal; only a backslash costs more. -/
theorem cost_units (c : CodePoint) :
    cost c.units = (Text.units (literalPoint c)).length + if c = .char '\\' then 1 else 0 := by
  have hquote : c.units.count 39 = if c = .char '\'' then 1 else 0 :=
    count_units (d := '\'') (by decide) c
  have hback : c.units.count 92 = if c = .char '\\' then 1 else 0 :=
    count_units (d := '\\') (by decide) c
  rw [cost, hquote, hback]
  by_cases hc : c = .char '\''
  · subst hc
    rfl
  · have hpoint : literalPoint c = [c] := by simp [literalPoint, hc]
    simp [hpoint, hc, Text.units]

/-- A code point has one unit or two. -/
theorem length_units (c : CodePoint) : 1 ≤ c.units.length ∧ c.units.length ≤ 2 := by
  cases c with
  | half n => exact ⟨le_rfl, Nat.le_succ 1⟩
  | char c =>
      rw [CodePoint.units]
      split_ifs <;> simp

/-- A quote and a backslash cost one more than their unit, and so they cost two. -/
theorem cost_units_le (c : CodePoint) : cost c.units ≤ c.units.length + 1 ∧ cost c.units ≤ 2 := by
  by_cases hquote : c = .char '\''
  · subst hquote
    decide
  by_cases hback : c = .char '\\'
  · subst hback
    decide
  have hpoint : literalPoint c = [c] := by simp [literalPoint, hquote]
  have hcost : cost c.units = c.units.length := by
    simp [cost_units, hpoint, hback, Text.units]
  have hlength := (length_units c).2
  omega

/-- One unit costs two at most. -/
theorem cost_singleton_le (n : Nat) : cost [n] ≤ 2 := by
  simp only [cost, List.length_singleton, List.count_singleton, beq_iff_eq]
  split_ifs <;> omega

/-- What a step adds to the total cost. -/
def price (next : State) (units : List Nat) : Nat := cost units + if next = .behind then 3 else 0

/-- What a step adds to the texts behind it raises their cost by its price at most. -/
theorem totalCost_attach_le (next : State) (units : List Nat) (texts : List (List Nat)) :
    totalCost (attach next units texts) ≤ price next units + totalCost texts := by
  unfold attach price
  split
  · simp [totalCost, cost]
  · cases texts with
    | nil => exact Nat.zero_le _
    | cons text texts =>
        simp only [inFront, totalCost, List.map_cons, List.sum_cons, cost_append]
        omega

/-- A step that ends no text costs no more than its units. -/
theorem price_of_ne_behind (h : next ≠ .behind) (units : List Nat) :
    price next units = cost units := by
  simp [price, h]

/-- A step between quotes pays for what it yields. -/
theorem price_insideStep_le (h : insideStep c = some (next, units)) :
    price next units + credit next ≤ c.units.length + 2 := by
  have hlength := (length_units c).1
  unfold insideStep at h
  split_ifs at h with hquote hback hends
  · obtain ⟨rfl, rfl⟩ := Prod.mk.inj (Option.some.inj h)
    exact Nat.add_le_add_right hlength 2
  · obtain ⟨rfl, rfl⟩ := Prod.mk.inj (Option.some.inj h)
    exact Nat.add_le_add_right hlength 2
  · obtain ⟨rfl, rfl⟩ := Prod.mk.inj (Option.some.inj h)
    have hpoint : literalPoint c = [c] := by simpa [literalPoint] using hquote
    have hcost : cost c.units = c.units.length := by
      simpa [cost_units, hpoint, Text.units] using hback
    rw [price_of_ne_behind (by decide), hcost]
    exact le_rfl

/-- A step behind a backslash pays for what it yields, with what the backslash has left. -/
theorem price_escapeStep_le (h : escapeStep c = some (next, units)) :
    price next units + credit next ≤ c.units.length + 3 := by
  have hlength := (length_units c).1
  -- what is written behind the backslash pays for its own unit, and the backslash for one more
  have hescaped : cost (escapedUnits c) ≤ c.units.length + 1 := by
    unfold escapedUnits
    split
    all_goals first | exact (cost_units_le _).1 | decide
  unfold escapeStep at h
  split_ifs at h with hunit hpair hzero hdigit hreturn hbreak
  all_goals obtain ⟨rfl, rfl⟩ := Prod.mk.inj (Option.some.inj h)
  · exact Nat.add_le_add_right hlength 3
  · exact Nat.add_le_add_right hlength 3
  · exact Nat.le_add_left 3 _
  · exact (Nat.le_succ 2).trans (Nat.le_add_left 3 _)
  · exact (Nat.le_succ 2).trans (Nat.le_add_left 3 _)
  · rw [price_of_ne_behind (by decide)]
    exact Nat.add_le_add_right hescaped 2

/-- **A step pays for what it yields**: with the units that it reads, and with what was left. -/
theorem price_step_le (h : step state c = some (next, units)) :
    price next units + credit next ≤ c.units.length + credit state := by
  have hlength := (length_units c).1
  cases state with
  | opening =>
      simp only [step, Option.ite_none_right_eq_some, Option.some.injEq, Prod.mk.injEq] at h
      obtain ⟨-, rfl, rfl⟩ := h
      exact Nat.add_le_add_right hlength 1
  | inside => exact price_insideStep_le h
  | escape => exact price_escapeStep_le h
  | null =>
      simp only [step, Option.ite_none_left_eq_some] at h
      exact price_insideStep_le h.2
  | carriage =>
      rw [step] at h
      split_ifs at h
      · obtain ⟨rfl, rfl⟩ := Prod.mk.inj (Option.some.inj h)
        exact (Nat.le_add_left 2 _)
      · exact price_insideStep_le h
  | unit missing value =>
      rw [step] at h
      split at h
      · obtain ⟨rfl, rfl⟩ := Prod.mk.inj (Option.some.inj h)
        exact Nat.le_add_left 4 _
      · obtain ⟨d, -, hd⟩ := Option.map_eq_some_iff.mp h
        split at hd
        · obtain ⟨rfl, rfl⟩ := Prod.mk.inj hd
          have hcost := cost_singleton_le (16 * value + d)
          rw [price_of_ne_behind (by decide)]
          exact (Nat.add_le_add_right hcost 2).trans (Nat.le_add_left 4 _)
        · obtain ⟨rfl, rfl⟩ := Prod.mk.inj hd
          exact Nat.le_add_left 4 _
  | braces value =>
      rw [step] at h
      split at h
      · obtain ⟨n, -, hn⟩ := Option.map_eq_some_iff.mp h
        obtain ⟨rfl, rfl⟩ := Prod.mk.inj hn
        have hcost := (cost_units_le (CodePoint.ofNat n)).2
        rw [price_of_ne_behind (by decide)]
        exact (Nat.add_le_add_right hcost 2).trans (Nat.le_add_left 4 _)
      · obtain ⟨d, -, hd⟩ := Option.map_eq_some_iff.mp h
        obtain ⟨rfl, rfl⟩ := Prod.mk.inj hd
        exact Nat.le_add_left 4 _
  | behind =>
      simp only [step, Option.ite_none_right_eq_some, Option.some.injEq, Prod.mk.injEq] at h
      obtain ⟨-, rfl, rfl⟩ := h
      exact hlength

/-- A run pays for the texts that are read. -/
theorem totalCost_le_of_readFrom (h : readFrom state s = some texts) :
    totalCost texts ≤ (Text.units s).length + credit state := by
  induction s generalizing state texts with
  | nil =>
      simp only [readFrom, Option.ite_none_right_eq_some, Option.some.injEq] at h
      obtain ⟨-, rfl⟩ := h
      exact Nat.zero_le _
  | cons c s ih =>
      obtain ⟨⟨next, units⟩, hstep, h⟩ := Option.bind_eq_some_iff.mp h
      obtain ⟨more, hmore, h⟩ := Option.bind_eq_some_iff.mp h
      obtain rfl := Option.some.inj h
      have hprice := price_step_le hstep
      have hattach := totalCost_attach_le next units more
      have hrun := ih hmore
      have hunits : (Text.units (c :: s)).length = c.units.length + (Text.units s).length := by
        simp [Text.units]
      omega

/-! ### Which texts are read back -/

/-- How many backslashes texts have. -/
def backslashes (vs : List Text) : Nat := (vs.map fun v => v.count (.char '\\')).sum

/-- The units of texts one after the other are the units of the one and then of the other. -/
theorem units_append (s t : Text) : Text.units (s ++ t) = s.units ++ t.units :=
  List.flatMap_append

/-- A text costs what is written for it in its literal, and one more for each backslash. -/
theorem cost_text (v : Text) :
    cost v.units = (Text.units (body v)).length + v.count (.char '\\') := by
  induction v with
  | nil => rfl
  | cons c v ih =>
      rw [← List.singleton_append, units_append, cost_append, ih, List.singleton_append, body_cons,
        units_append, List.length_append, List.count_cons]
      have hcost : cost (Text.units [c]) = cost c.units := by simp [Text.units]
      simp only [hcost, cost_units, beq_iff_eq]
      omega

/-- Texts cost more than their literals can pay for, by as many units as they have backslashes. -/
theorem totalCost_map_units (vs : List Text) :
    totalCost (vs.map Text.units) = (Text.units (furtherLiterals vs)).length + backslashes vs := by
  induction vs with
  | nil => rfl
  | cons v vs ih =>
      have hmarks (s t : Text) :
          (Text.units (.char '|' :: .char '\'' :: (s ++ .char '\'' :: t))).length =
            (Text.units s).length + (Text.units t).length + 3 := by
        simp [Text.units, CodePoint.units]
        omega
      rw [furtherLiterals_cons, quotedLiteral_append, hmarks]
      simp only [totalCost, backslashes, List.map_cons, List.sum_cons, cost_text] at ih ⊢
      omega

/-- Texts that are read back have no backslashes. -/
theorem backslash_notMem_of_read (h : read (unionText vs) = some (vs.map Text.units)) :
    ∀ v ∈ vs, .char '\\' ∉ v := by
  cases vs with
  | nil => simp
  | cons v vs =>
      have hpaid := totalCost_le_of_readFrom h
      have hlength : (Text.units (furtherLiterals (v :: vs))).length =
          (Text.units (unionText (v :: vs))).length + 1 := by
        rw [furtherLiterals_cons, unionText_cons]
        simp [Text.units, CodePoint.units]
      rw [totalCost_map_units, hlength, credit] at hpaid
      have hnone : backslashes (v :: vs) = 0 := by omega
      intro w hw
      exact List.count_eq_zero.mp
        (List.sum_eq_zero_iff.mp hnone _ (List.mem_map_of_mem hw))

/-- No literal without backslashes goes over the end of a line. -/
theorem endsLine_of_readFrom_body (hv : .char '\\' ∉ v)
    (h : readFrom .inside (body v ++ k) = some texts) : ∀ c ∈ v, endsLine c = false := by
  induction v generalizing texts with
  | nil => simp
  | cons c v ih =>
      obtain ⟨hc, hv⟩ := List.ne_and_not_mem_of_not_mem_cons hv
      rw [body_cons, List.append_assoc] at h
      cases hends : endsLine c with
      | true =>
          obtain rfl | rfl : c = .char '\n' ∨ c = .char '\r' := by simpa [endsLine] using hends
          · cases h
          · cases h
      | false =>
          have haltered : isAltered c = false := by simp [isAltered, hends, hc.symm]
          rw [readFrom_literalPoint haltered] at h
          obtain ⟨more, hmore, -⟩ := Option.map_eq_some_iff.mp h
          exact List.forall_mem_cons.mpr ⟨hends, ih hv hmore⟩

/-- The same for one literal after the other. -/
theorem endsLine_of_readFrom_furtherLiterals (hvs : ∀ v ∈ vs, .char '\\' ∉ v)
    (h : readFrom .behind (furtherLiterals vs) = some texts) :
    ∀ v ∈ vs, ∀ c ∈ v, endsLine c = false := by
  induction vs generalizing texts with
  | nil => simp
  | cons v vs ih =>
      obtain ⟨hv, hvs⟩ := List.forall_mem_cons.mp hvs
      rw [readFrom_furtherLiterals_cons] at h
      have hends := endsLine_of_readFrom_body hv h
      have haltered : ∀ c ∈ v, isAltered c = false := by
        intro c hc
        have hback : c ≠ .char '\\' := by
          rintro rfl
          exact hv hc
        simp [isAltered, hback, hends c hc]
      rw [readFrom_body haltered] at h
      obtain ⟨more, hmore, -⟩ := Option.map_eq_some_iff.mp h
      exact List.forall_mem_cons.mpr ⟨hends, ih hvs hmore⟩

/-- **Which texts survive as literals**: those without a backslash and without an end of a line. -/
theorem read_unionText_iff (hne : vs ≠ []) :
    read (unionText vs) = some (vs.map Text.units) ↔ ∀ v ∈ vs, ∀ c ∈ v, isAltered c = false := by
  obtain ⟨v, more, rfl⟩ := List.exists_cons_of_ne_nil hne
  have hbar : readFrom .behind (furtherLiterals (v :: more)) = read (unionText (v :: more)) := by
    rw [furtherLiterals_cons, unionText_cons, readFrom_bar]
    rfl
  constructor
  · intro h w hw c hc
    have hback := backslash_notMem_of_read h
    have hends := endsLine_of_readFrom_furtherLiterals hback (hbar.trans h) w hw c hc
    have hne : c ≠ .char '\\' := by
      rintro rfl
      exact hback w hw hc
    simp [isAltered, hne, hends]
  · intro h
    rw [← hbar, readFrom_furtherLiterals h]

-- a backslash at the end takes the closing quote into the text
example : read (unionText ["a\\", "b"]) = none := by decide

/-! ### Texts that can be recovered -/

/-- Only an empty text has its closing quote first. -/
theorem eq_nil_of_body_eq (h : body v ++ .char '\'' :: k = .char '\'' :: s) : v = [] ∧ k = s := by
  cases v with
  | nil => exact ⟨rfl, (List.cons.inj h).2⟩
  | cons c v =>
      rw [body_cons, List.append_assoc] at h
      by_cases hc : c = .char '\''
      · subst hc
        cases h
      · have hpoint : literalPoint c = [c] := by simp [literalPoint, hc]
        rw [hpoint] at h
        exact absurd (List.cons.inj h).1 hc

/-- What stands in a literal cannot be taken for further literals: a bar in the one would have to be
a bar behind a closing quote in the other, and so on without end. -/
theorem body_ne_furtherLiterals (v : Text) (vs ws : List Text) :
    body v ++ .char '\'' :: furtherLiterals vs ≠ furtherLiterals ws := by
  intro h
  match ws with
  | [] => simp [furtherLiterals] at h
  | w :: ws =>
      rw [furtherLiterals_cons, quotedLiteral_append] at h
      match v with
      | [] => cases h
      | c :: v =>
          rw [body_cons, List.append_assoc] at h
          by_cases hc : c = .char '\''
          · subst hc
            cases h
          · have hpoint : literalPoint c = [c] := by simp [literalPoint, hc]
            rw [hpoint] at h
            obtain ⟨-, hrest⟩ := eq_nil_of_body_eq (List.cons.inj h).2
            exact body_ne_furtherLiterals w ws vs hrest.symm
termination_by vs.length + ws.length

/-- An escaped quote in one literal is not a backslash in front of the closing quote of another. -/
theorem escapedQuote_ne (d : CodePoint) (v w : Text) (vs ws : List Text) :
    .char '\\' :: .char '\'' :: (body v ++ .char '\'' :: furtherLiterals vs) ≠
      d :: (body w ++ .char '\'' :: furtherLiterals ws) := by
  intro h
  obtain ⟨-, hrest⟩ := eq_nil_of_body_eq (List.cons.inj h).2.symm
  exact body_ne_furtherLiterals v vs ws hrest.symm

/-- The first text of a union can be recovered. -/
theorem eq_of_body_append
    (h : body v ++ .char '\'' :: furtherLiterals vs = body w ++ .char '\'' :: furtherLiterals ws) :
    v = w ∧ furtherLiterals vs = furtherLiterals ws := by
  induction v generalizing w with
  | nil =>
      obtain ⟨rfl, hrest⟩ := eq_nil_of_body_eq h.symm
      exact ⟨rfl, hrest.symm⟩
  | cons c v ih =>
      cases w with
      | nil => exact absurd (eq_nil_of_body_eq h).1 (List.cons_ne_nil c v)
      | cons d w =>
          rw [body_cons, body_cons, List.append_assoc, List.append_assoc] at h
          have hpoint {c : CodePoint} (hc : c ≠ .char '\'') : literalPoint c = [c] := by
            simp [literalPoint, hc]
          by_cases hc : c = .char '\'' <;> by_cases hd : d = .char '\''
          · subst hc hd
            obtain ⟨rfl, hrest⟩ := ih (List.append_cancel_left h)
            exact ⟨rfl, hrest⟩
          · subst hc
            rw [hpoint hd] at h
            exact absurd h (escapedQuote_ne d v w vs ws)
          · subst hd
            rw [hpoint hc] at h
            exact absurd h.symm (escapedQuote_ne c w v ws vs)
          · rw [hpoint hc, hpoint hd] at h
            obtain ⟨rfl, htail⟩ := List.cons.inj h
            obtain ⟨rfl, hrest⟩ := ih htail
            exact ⟨rfl, hrest⟩

/-- From the literals behind the first one their texts can be told. -/
theorem furtherLiterals_inj (h : furtherLiterals vs = furtherLiterals ws) : vs = ws := by
  induction vs generalizing ws with
  | nil =>
      cases ws with
      | nil => rfl
      | cons w ws => simp [furtherLiterals] at h
  | cons v vs ih =>
      cases ws with
      | nil => simp [furtherLiterals] at h
      | cons w ws =>
          rw [furtherLiterals_cons, furtherLiterals_cons, quotedLiteral_append,
            quotedLiteral_append] at h
          obtain ⟨rfl, hrest⟩ := eq_of_body_append (List.cons.inj (List.cons.inj h).2).2
          rw [ih hrest]

/-- **Different texts make different unions**, whatever is in them. -/
theorem unionText_inj (hvs : vs ≠ []) (hws : ws ≠ []) (h : unionText vs = unionText ws) :
    vs = ws := by
  obtain ⟨v, vs, rfl⟩ := List.exists_cons_of_ne_nil hvs
  obtain ⟨w, ws, rfl⟩ := List.exists_cons_of_ne_nil hws
  apply furtherLiterals_inj
  rw [furtherLiterals_cons, furtherLiterals_cons, ← unionText_cons, ← unionText_cons, h]

end ClientScribe.Script.LiteralUnion
