import ClientScribe.Text.Basic
import Mathlib.Data.List.Forall2
import Mathlib.Data.List.TakeWhile

/-!
# Reading Types Of The Client's Language

The client's language reads a type with a precedence of its own: the brackets of an array bind more
tightly than the bar of a union, parentheses group, and an object with any keys stands in braces
around the type of its values. `TypeTree.read` reads a whole text this way. Names and the insides of
literals are taken as they are: a name is a row of code points none of which is a mark of the
language, and a literal goes on to the next quote. Escapes in literals are left out.

What is written behind a type decides how far it reaches. `ReadsAsMember` says that a text is read
as one member of a union whatever stands behind it, brackets included, and `ReadsAs` that it is read
as a whole union in front of the end or of what closes a bracket; the members of a union are the
former and a union in parentheses is one again (`ReadsAs.group`).
-/

namespace ClientScribe.Script

/-- The code points with a meaning of their own in a type. -/
def marks : Text := "|[]()\x7b\x7d'\\"

/-- Whether a code point is one of these. -/
def isMark (c : CodePoint) : Bool := marks.contains c

/-- A text that can stand as a name: it is not empty and has no marks. -/
def IsTypeName (s : Text) : Prop := s ≠ [] ∧ ∀ c ∈ s, isMark c = false

instance (s : Text) : Decidable (IsTypeName s) :=
  inferInstanceAs (Decidable (s ≠ [] ∧ ∀ c ∈ s, isMark c = false))

/-- A type as it is read. -/
inductive TypeTree where
  | name (s : Text)
  /-- A text that is its own type. -/
  | literal (s : Text)
  | array (elements : TypeTree)
  | union (members : List TypeTree)
  /-- An object with any keys. -/
  | dictionary (values : TypeTree)

namespace TypeTree

/-- The union of types, which is a type itself if it is the only one. -/
def unionOf : List TypeTree → TypeTree
  | [t] => t
  | ts => .union ts

/-- What stands in front of the values of a dictionary. -/
def dictionaryFront : Text := "\x7b[key: string]: "

/-- Reads a type and what closes the bracket around it. -/
def closedBy (closing : Char) (inner : Text → Option (TypeTree × Text)) (s : Text) :
    Option (TypeTree × Text) := do
  let (t, rest) ← inner s
  match rest with
  | .char c :: rest => if c == closing then some (t, rest) else none
  | _ => none

/-- Reads a literal behind its opening quote. -/
def literalBody (s : Text) : Option (TypeTree × Text) :=
  match s.dropWhile fun c => c != .char '\'' && c != .char '\\' with
  | .char '\'' :: rest =>
    some (.literal (s.takeWhile fun c => c != .char '\'' && c != .char '\\'), rest)
  | _ => none

/-- Reads a name. -/
def word (s : Text) : Option (TypeTree × Text) :=
  let front := s.takeWhile fun c => !isMark c
  if front.isEmpty then none else some (.name front, s.dropWhile fun c => !isMark c)

/-- Reads a type without brackets of an array behind it. -/
def primary (inner : Text → Option (TypeTree × Text)) (s : Text) : Option (TypeTree × Text) :=
  match s with
  | .char '(' :: rest => closedBy ')' inner rest
  | .char '\'' :: rest => literalBody rest
  | s =>
    if dictionaryFront.isPrefixOf s then
      (closedBy '\x7d' inner (s.drop dictionaryFront.length)).map fun r => (.dictionary r.1, r.2)
    else word s

/-- Reads the brackets behind the elements of an array. -/
def brackets (t : TypeTree) : Text → TypeTree × Text
  | .char '[' :: .char ']' :: rest => brackets (.array t) rest
  | s => (t, s)

/-- Reads one member of a union, given how what is in brackets is read. -/
def member (inner : Text → Option (TypeTree × Text)) (s : Text) : Option (TypeTree × Text) :=
  (primary inner s).map fun r => brackets r.1 r.2

/-- Reads on behind a member of a union, given how the members behind a bar are read. -/
def membersBehind (more : Text → Option (List TypeTree × Text)) (t : TypeTree) :
    Text → Option (List TypeTree × Text)
  | .char '|' :: rest => (more rest).map fun r => (t :: r.1, r.2)
  | rest => some ([t], rest)

/-- Reads the members of a union. The fuel bounds how deeply they are nested and how many there are
on a level. -/
def members : Nat → Text → Option (List TypeTree × Text)
  | 0, _ => none
  | fuel + 1, s =>
    (member (fun s => (members fuel s).map fun r => (unionOf r.1, r.2)) s).bind fun r =>
      membersBehind (members fuel) r.1 r.2

/-- Every union in the type, at any depth, is one of names and literals. -/
inductive HasFlatUnions : TypeTree → Prop
  | name (s : Text) : HasFlatUnions (.name s)
  | literal (s : Text) : HasFlatUnions (.literal s)
  | array {elements : TypeTree} (h : HasFlatUnions elements) : HasFlatUnions (.array elements)
  | union {members : List TypeTree}
      (h : ∀ member ∈ members, ∃ s, member = .name s ∨ member = .literal s) :
      HasFlatUnions (.union members)
  | dictionary {values : TypeTree} (h : HasFlatUnions values) : HasFlatUnions (.dictionary values)

/-- The type that a text is. -/
def read (s : Text) : Option TypeTree :=
  match members (s.length + 1) s with
  | some (ts, []) => some (unionOf ts)
  | _ => none

/-! ### What is read in front of a rest -/

/-- A rest that ends a name: it is empty or starts with a mark. -/
def EndsNames (k : Text) : Prop := ∀ c ∈ k.head?, isMark c = true

/-- A rest that ends a union: it is empty or starts with what closes a bracket. -/
def EndsUnions (k : Text) : Prop := ∀ c ∈ k.head?, c = .char ')' ∨ c = .char '\x7d'

/-- What is in brackets, as it is read with this much fuel. -/
def inside (fuel : Nat) (s : Text) : Option (TypeTree × Text) :=
  (members fuel s).map fun r => (unionOf r.1, r.2)

/-- A text is read as one member, with the brackets behind it, if there is fuel for its length. -/
def ReadsAsMember (s : Text) (t : TypeTree) : Prop :=
  ∀ k, EndsNames k → ∀ fuel, s.length ≤ fuel → member (inside fuel) (s ++ k) = some (brackets t k)

/-- A text is read as the members of a union, if there is fuel for more than its length. -/
def ReadsAs (s : Text) (ts : List TypeTree) : Prop :=
  ∀ k, EndsUnions k → ∀ fuel, s.length < fuel → members fuel (s ++ k) = some (ts, k)

variable {s r k : Text} {t : TypeTree} {ts : List TypeTree}

/-- A union is its first member and then the members behind bars. -/
theorem members_succ (fuel : Nat) (s : Text) :
    members (fuel + 1) s =
      (member (inside fuel) s).bind fun r => membersBehind (members fuel) r.1 r.2 := rfl

/-- A mark in front ends a name. -/
theorem EndsNames.cons {c : CodePoint} (h : isMark c = true) (k : Text) : EndsNames (c :: k) := by
  intro d hd
  obtain rfl := Option.some.inj hd
  exact h

/-- What ends a union ends a name as well. -/
theorem EndsUnions.endsNames (h : EndsUnions k) : EndsNames k := by
  intro c hc
  rcases h c hc with rfl | rfl <;> decide

/-- What ends a union has no brackets of an array in front. -/
theorem EndsUnions.brackets_eq (h : EndsUnions k) (t : TypeTree) : brackets t k = (t, k) := by
  cases k with
  | nil => rfl
  | cons c k =>
      rcases h c rfl with rfl | rfl <;> rfl

/-- In front of what ends a union no further members are read. -/
theorem EndsUnions.membersBehind_eq (h : EndsUnions k)
    (more : Text → Option (List TypeTree × Text)) (t : TypeTree) :
    membersBehind more t k = some ([t], k) := by
  cases k with
  | nil => rfl
  | cons c k =>
      rcases h c rfl with rfl | rfl <;> rfl

/-! ### Members -/

/-- Code points of a kind are taken up to one of another kind. -/
theorem takeWhile_append_of_head? {p : CodePoint → Bool} (hs : ∀ c ∈ s, p c = true)
    (hk : ∀ c ∈ k.head?, p c = false) :
    (s ++ k).takeWhile p = s ∧ (s ++ k).dropWhile p = k := by
  rw [List.takeWhile_append_of_pos hs, List.dropWhile_append_of_pos hs]
  cases k with
  | nil => simp
  | cons c k => simp [hk c rfl]

/-- A name is read as itself. -/
theorem ReadsAsMember.name (h : IsTypeName s) : ReadsAsMember s (.name s) := by
  intro k hk fuel _
  obtain ⟨hne, hmarks⟩ := h
  obtain ⟨htake, hdrop⟩ := takeWhile_append_of_head? (p := fun c => !isMark c) (s := s) (k := k)
    (fun c hc => by simp [hmarks c hc]) (fun c hc => by simp [hk c hc])
  have hword : word (s ++ k) = some (.name s, k) := by
    simp [word, htake, hdrop, hne]
  obtain ⟨c, rest, rfl⟩ := List.exists_cons_of_ne_nil hne
  have hc : isMark c = false := hmarks c List.mem_cons_self
  have hprimary : primary (inside fuel) (c :: rest ++ k) = word (c :: rest ++ k) := by
    have hparen : c ≠ .char '(' := by
      rintro rfl
      exact absurd hc (by decide)
    have hquote : c ≠ .char '\'' := by
      rintro rfl
      exact absurd hc (by decide)
    have hbrace : dictionaryFront.isPrefixOf (c :: rest ++ k) = false := by
      have hne : (CodePoint.char '\x7b' == c) = false := by
        rw [beq_eq_false_iff_ne]
        rintro rfl
        exact absurd hc (by decide)
      simp [dictionaryFront, Text.ofString, Text.ofChars, List.isPrefixOf, hne]
    rw [List.cons_append] at hbrace ⊢
    rw [primary, if_neg (by simp [hbrace])]
    · exact fun more heq => hparen (List.cons.inj heq).1
    · exact fun more heq => hquote (List.cons.inj heq).1
  rw [member, hprimary, hword]
  rfl

/-- A literal without quotes and backslashes inside is read as what is inside. -/
theorem ReadsAsMember.literal (h : ∀ c ∈ s, c ≠ .char '\'' ∧ c ≠ .char '\\') :
    ReadsAsMember ("'" ++ s ++ "'") (.literal s) := by
  intro k _ fuel _
  obtain ⟨htake, hdrop⟩ := takeWhile_append_of_head?
    (p := fun c => c != .char '\'' && c != .char '\\') (s := s) (k := "'" ++ k)
    (fun c hc => by simp [h c hc]) (fun c hc => by obtain rfl := Option.some.inj hc; rfl)
  have hbody : literalBody (s ++ ("'" ++ k)) = some (.literal s, k) := by
    rw [literalBody, htake, hdrop]
    rfl
  have hprimary : primary (inside fuel) ("'" ++ s ++ "'" ++ k) = some (.literal s, k) := by
    rw [← hbody, List.append_assoc, List.append_assoc]
    rfl
  rw [member, hprimary]
  rfl

/-- Brackets behind a member make it the elements of an array. -/
theorem ReadsAsMember.array (h : ReadsAsMember s t) : ReadsAsMember (s ++ "[]") (.array t) := by
  intro k hk fuel hfuel
  have hs : s.length ≤ fuel := by
    rw [List.length_append] at hfuel
    omega
  rw [List.append_assoc, h ("[]" ++ k) (.cons (by decide) _) fuel hs]
  rfl

/-- A union is read up to what closes the bracket around it. -/
theorem ReadsAs.closedBy (h : ReadsAs s ts) {closing : Char}
    (hclosing : closing = ')' ∨ closing = '\x7d') (k : Text) {fuel : Nat}
    (hfuel : s.length < fuel) :
    closedBy closing (inside fuel) (s ++ .char closing :: k) = some (unionOf ts, k) := by
  have hends : EndsUnions (.char closing :: k) := by
    intro c hc
    obtain rfl := Option.some.inj hc
    rcases hclosing with rfl | rfl
    · exact .inl rfl
    · exact .inr rfl
  simp [TypeTree.closedBy, inside, h _ hends fuel hfuel]

/-- A union in parentheses is read as one member. -/
theorem ReadsAs.group (h : ReadsAs s ts) : ReadsAsMember ("(" ++ s ++ ")") (unionOf ts) := by
  intro k _ fuel hfuel
  have hs : s.length < fuel := by
    simp only [List.length_append] at hfuel
    have : (Text.ofString "(").length = 1 := rfl
    omega
  have hprimary : primary (inside fuel) ("(" ++ s ++ ")" ++ k) = some (unionOf ts, k) := by
    rw [← h.closedBy (.inl rfl) k hs, List.append_assoc, List.append_assoc]
    rfl
  rw [member, hprimary]
  rfl

/-- What stands in front of the values of a dictionary makes a text one. -/
theorem primary_dictionaryFront (inner : Text → Option (TypeTree × Text)) (s : Text) :
    primary inner (dictionaryFront ++ s) =
      (TypeTree.closedBy '\x7d' inner s).map fun r => (.dictionary r.1, r.2) := by
  have hfront : dictionaryFront.isPrefixOf (dictionaryFront ++ s) = true := by simp
  have hprimary : primary inner (dictionaryFront ++ s) =
      if dictionaryFront.isPrefixOf (dictionaryFront ++ s) then
        (TypeTree.closedBy '\x7d' inner ((dictionaryFront ++ s).drop dictionaryFront.length)).map
          fun r => (.dictionary r.1, r.2)
      else word (dictionaryFront ++ s) := rfl
  rw [hprimary, if_pos hfront, List.drop_left]

/-- An object with any keys is read as one, whatever union its values are. -/
theorem ReadsAs.dictionary (h : ReadsAs s ts) :
    ReadsAsMember (dictionaryFront ++ s ++ "\x7d") (.dictionary (unionOf ts)) := by
  intro k _ fuel hfuel
  have hs : s.length < fuel := by
    simp only [List.length_append] at hfuel
    have : dictionaryFront.length = 16 := rfl
    omega
  have hprimary : primary (inside fuel) (dictionaryFront ++ s ++ "\x7d" ++ k) =
      some (.dictionary (unionOf ts), k) := by
    have hclosed := h.closedBy (.inr rfl) k hs
    rw [List.append_assoc, List.append_assoc, primary_dictionaryFront]
    exact congrArg (Option.map fun r => (TypeTree.dictionary r.1, r.2)) hclosed
  rw [member, hprimary]
  rfl

/-! ### Unions -/

/-- A member alone is read as a union of itself. -/
theorem ReadsAs.single (h : ReadsAsMember s t) : ReadsAs s [t] := by
  intro k hk fuel hfuel
  obtain ⟨fuel, rfl⟩ : ∃ less, fuel = less + 1 := ⟨fuel - 1, by omega⟩
  rw [members_succ, h k hk.endsNames fuel (by omega), hk.brackets_eq]
  exact hk.membersBehind_eq _ t

/-- A member in front of a bar is read as the first of the union behind it. -/
theorem ReadsAs.cons (h : ReadsAsMember s t) (hmore : ReadsAs r ts) :
    ReadsAs (s ++ "|" ++ r) (t :: ts) := by
  intro k hk fuel hfuel
  obtain ⟨fuel, rfl⟩ : ∃ less, fuel = less + 1 := ⟨fuel - 1, by omega⟩
  have hlength : s.length + (r.length + 1) < fuel + 1 := by
    simpa [Text.ofString, Text.ofChars] using hfuel
  rw [members_succ, List.append_assoc, List.append_assoc,
    h ("|" ++ (r ++ k)) (.cons (by decide) _) fuel (by omega)]
  have hrest : membersBehind (members fuel) t ("|" ++ (r ++ k)) =
      (members fuel (r ++ k)).map fun r => (t :: r.1, r.2) := rfl
  exact hrest.trans (by rw [hmore k hk fuel (by omega)]; rfl)

/-- Members with bars between them are read as the union of them. -/
theorem ReadsAs.intercalate {rows : List Text} (hrows : List.Forall₂ ReadsAsMember rows ts)
    (hne : rows ≠ []) : ReadsAs (Text.intercalate "|" rows) ts := by
  induction hrows with
  | nil => exact absurd rfl hne
  | @cons row t rows ts hrow hrows ih =>
      cases rows with
      | nil =>
          cases hrows
          simpa [Text.intercalate] using ReadsAs.single hrow
      | cons next rows =>
          have hcons := ReadsAs.cons hrow (ih (List.cons_ne_nil next rows))
          rwa [Text.intercalate, List.intercalate_cons_cons]

/-- A whole text that is read as a union is this union. -/
theorem ReadsAs.read_eq (h : ReadsAs s ts) : read s = some (unionOf ts) := by
  have hread := h [] (fun c hc => by cases hc) (s.length + 1) (by omega)
  rw [List.append_nil] at hread
  rw [read, hread]

-- parentheses keep a union in the elements of an array
example : read "('a'|'b')[]" = some (.array (.union [.literal "a", .literal "b"])) := rfl

example : read "'a'|'b'[]" = some (.union [.literal "a", .array (.literal "b")]) := rfl

end TypeTree

end ClientScribe.Script
