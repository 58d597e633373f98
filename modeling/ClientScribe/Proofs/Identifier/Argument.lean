import ClientScribe.Identifier.Basic
import ClientScribe.Proofs.Identifier.Constant

/-!
# Names of Arguments

The argument of a parameter has the words of the parameter's name for its name, in camel case and
with an underscore behind a reserved word. Camel case keeps every property that upper case keeps
(`all_camelName`), and upper case makes no separator of anything else, so there is none in camel
case. As the underscore is one, escaping reserved words never makes one name of two
(`escapeReserved_inj`), and two names have the same argument exactly if they are the same in camel
case.

A name that is not made of separators alone has an argument, and the argument is in a normal form:
it has no separator but for an underscore at its end, it is no reserved word, and it is its own
argument (`argumentName_normal_form`). The underscore is there exactly if the name in camel case is
a reserved word. As the words behind the first one get capitals, which no reserved word has, the
name is then a single word between separators.
-/

namespace ClientScribe.Identifier

open Text.Case (capitalize holds upperChar)

variable {name a b word : Text}

/-! ### Words -/

/-- There are no words between gaps only. -/
theorem words_eq_nil_iff {isGap : CodePoint → Bool} :
    words isGap name = [] ↔ ∀ c ∈ name, isGap c = true := by
  have hflat : words isGap name = [] ↔ (words isGap name).flatten = [] := by
    refine ⟨fun h => by rw [h, List.flatten_nil], fun h => List.eq_nil_iff_forall_not_mem.mpr ?_⟩
    exact fun word hword => ne_nil_of_mem_words hword (List.flatten_eq_nil_iff.mp h word hword)
  rw [hflat, flatten_words, List.filter_eq_nil_iff]
  simp

/-- A text without gaps is one word, whatever gaps stand behind it. -/
theorem words_append_gaps {isGap : CodePoint → Bool} (hne : name ≠ [])
    (h : ∀ c ∈ name, isGap c = false) {gaps : Text} (hgaps : ∀ c ∈ gaps, isGap c = true) :
    words isGap (name ++ gaps) = [name] := by
  induction name with
  | nil => exact absurd rfl hne
  | cons c rest ih =>
      obtain ⟨hc, hrest⟩ := List.forall_mem_cons.mp h
      cases rest with
      | nil =>
          cases gaps with
          | nil => simp [words, hc]
          | cons d more =>
              obtain ⟨hd, hmore⟩ := List.forall_mem_cons.mp hgaps
              simp [words, hc, hd, words_eq_nil_iff.mpr hmore]
      | cons d more =>
          have hd : isGap d = false := hrest d List.mem_cons_self
          have hwords := ih (List.cons_ne_nil _ _) hrest
          rw [List.cons_append] at hwords
          rw [List.cons_append, List.cons_append, words, hwords]
          simp [hc, hd]

/-! ### Separators -/

/-- Blank characters as ranges. -/
def blankRanges : List (Nat × Nat) :=
  [(9, 13), (28, 32), (0x85, 0x85), (0xA0, 0xA0), (0x1680, 0x1680), (0x2000, 0x200A),
    (0x2028, 0x2029), (0x202F, 0x202F), (0x205F, 0x205F), (0x3000, 0x3000)]

/-- Separators as ranges. -/
def separatorRanges : List (Nat × Nat) :=
  Text.Case.single "_-!@#$%^&*()".toList ++ blankRanges

/-- The separators are what these ranges hold. -/
theorem isSeparator_eq_holds (c : Char) : isSeparator c = holds separatorRanges c.toNat := by
  have hblank : Text.isBlank c = holds blankRanges c.toNat := by
    rw [Bool.eq_iff_iff]
    simp only [Text.isBlank, holds, blankRanges, List.any_cons, List.any_nil, Bool.or_eq_true,
      Bool.and_eq_true, decide_eq_true_eq, beq_iff_eq, Bool.false_eq_true, or_false]
    omega
  rw [isSeparator, separatorRanges, Text.Case.holds_append, Text.Case.holds_single, hblank]

/-- Upper case keeps the separators, as far as its tables say. -/
theorem isKept_separatorRanges : Text.Case.IsKept separatorRanges where
  letters := by decide +kernel
  expansions := by decide +kernel
  runs := by decide +kernel

/-- The upper case of a character has separators exactly if the character is one. -/
theorem isSeparator_of_mem_upperChar {c d : Char} (hd : d ∈ upperChar c) :
    isSeparator d = isSeparator c := by
  rw [isSeparator_eq_holds, isSeparator_eq_holds, isKept_separatorRanges.holds_eq hd]

/-! ### Camel case -/

/-- A name in camel case. -/
def camelName (name : Text) : Text := camelCase (words (·.satisfies isSeparator) name)

/-- What a name consists of apart from the separators. -/
def withoutSeparators (name : Text) : Text := name.filter (!·.satisfies isSeparator)

/-- The words of a name hold what it consists of apart from the separators. -/
theorem flatten_words_eq (name : Text) :
    (words (·.satisfies isSeparator) name).flatten = withoutSeparators name :=
  flatten_words _ name

/-- Camel case leaves the first character as it is. -/
theorem head?_camelName (name : Text) :
    (camelName name).head? = (withoutSeparators name).head? := by
  rw [← flatten_words_eq, camelName]
  cases hwords : words (·.satisfies isSeparator) name with
  | nil => rfl
  | cons word more =>
      have hword : word ≠ [] := ne_nil_of_mem_words (hwords ▸ List.mem_cons_self)
      obtain ⟨c, rest, rfl⟩ := List.exists_cons_of_ne_nil hword
      rfl

/-- **What camel case keeps**: a property that upper case keeps holds of a name in camel case
exactly if it holds of the name apart from the separators. -/
theorem all_camelName {P : CodePoint → Bool}
    (hP : ∀ c, ∀ d ∈ upperChar c, P (.char d) = P (.char c)) (name : Text) :
    (camelName name).all P = (withoutSeparators name).all P := by
  rw [← flatten_words_eq, camelName]
  cases words (·.satisfies isSeparator) name with
  | nil => rfl
  | cons first more =>
      have hmore : (more.flatMap capitalize).all P = more.flatten.all P := by
        rw [List.all_flatMap, List.all_flatten]
        exact List.all_congr rfl fun word => Text.Case.all_capitalize hP word
      rw [camelCase, List.flatten_cons, List.all_append, List.all_append, hmore]

/-- There is no separator in camel case. -/
theorem isSeparator_of_mem_camelName {c : CodePoint} (hc : c ∈ camelName name) :
    c.satisfies isSeparator = false := by
  have hall : (camelName name).all (!·.satisfies isSeparator) = true := by
    rw [all_camelName fun c d hd => congrArg (!·) (isSeparator_of_mem_upperChar hd)]
    exact List.all_eq_true.mpr fun c hc => (List.mem_filter.mp hc).2
  simpa using List.all_eq_true.mp hall c hc

/-- There is no underscore in camel case. -/
theorem underscore_not_mem_camelName (name : Text) : CodePoint.char '_' ∉ camelName name := by
  intro h
  exact absurd (isSeparator_of_mem_camelName h) (by decide)

/-- A name without separators is in camel case. -/
theorem camelName_eq_self (hne : name ≠ []) (h : ∀ c ∈ name, c.satisfies isSeparator = false) :
    camelName name = name := by
  have hword : words (·.satisfies isSeparator) (name ++ []) = [name] :=
    words_append_gaps hne h (by simp)
  rw [List.append_nil] at hword
  rw [camelName, hword, camelCase, List.flatMap_nil, List.append_nil]

/-- A name with a word is not empty in camel case. -/
theorem camelName_ne_nil (h : words (·.satisfies isSeparator) name ≠ []) : camelName name ≠ [] := by
  obtain ⟨word, more, hwords⟩ := List.exists_cons_of_ne_nil h
  have hword : word ≠ [] := ne_nil_of_mem_words (hwords ▸ List.mem_cons_self)
  rw [camelName, hwords, camelCase]
  exact List.append_ne_nil_of_left_ne_nil hword _

/-! ### Reserved words -/

/-- A name with a word is in camel case and escaped, and one without is refused. -/
theorem argumentName_eq (name : Text) : argumentName name =
    if words (·.satisfies isSeparator) name = [] then .error (.unnameable name)
    else .ok (escapeReserved (camelName name)) := by
  unfold argumentName camelName
  split
  · next h => rw [if_pos h]
  · next h => rw [if_neg h]

/-- A name has an argument exactly when it has a word. -/
theorem argumentName_eq_ok_iff : argumentName name = .ok a ↔
    words (·.satisfies isSeparator) name ≠ [] ∧ a = escapeReserved (camelName name) := by
  rw [argumentName_eq]
  split
  · next h => simp [h]
  · next h => simp [h, eq_comm]

/-- An argument is the name in camel case, escaped. -/
theorem eq_escapeReserved_of_argumentName (h : argumentName name = .ok a) :
    a = escapeReserved (camelName name) :=
  (argumentName_eq_ok_iff.mp h).2

/-- Escaping puts an underscore behind a reserved word and nothing behind other names. -/
theorem escapeReserved_eq_append (name : Text) :
    escapeReserved name = name ++ if name ∈ reservedWords then [.char '_'] else [] := by
  rw [escapeReserved, List.contains_eq_mem]
  by_cases h : name ∈ reservedWords
  · simp [h, Text.ofString, Text.ofChars]
  · simp [h]

/-- **Escaping keeps names apart** that have no underscore. -/
theorem escapeReserved_inj (ha : CodePoint.char '_' ∉ a) (hb : CodePoint.char '_' ∉ b) :
    escapeReserved a = escapeReserved b ↔ a = b := by
  refine ⟨fun h => ?_, fun h => h ▸ rfl⟩
  unfold escapeReserved at h
  split at h
  · split at h
    · exact List.append_cancel_right h
    · exact absurd (h ▸ List.mem_append_right a (List.mem_singleton.mpr rfl)) hb
  · split at h
    · exact absurd (h ▸ List.mem_append_right b (List.mem_singleton.mpr rfl)) ha
    · exact h

/-- Reserved words are words of small letters. -/
theorem isLower_of_mem_reservedWords (hword : word ∈ reservedWords) :
    word ≠ [] ∧ ∀ c ∈ word, c.satisfies Char.isLower = true := by
  have hall : ∀ word ∈ reservedWords, word ≠ [] ∧ word.all (·.satisfies Char.isLower) = true := by
    decide
  exact ⟨(hall word hword).1, List.all_eq_true.mp (hall word hword).2⟩

/-- With an underscore behind it a text is no reserved word. -/
theorem escapeReserved_not_mem (name : Text) : escapeReserved name ∉ reservedWords := by
  unfold escapeReserved
  split
  · intro hmem
    have hlower := (isLower_of_mem_reservedWords hmem).2 (.char '_')
      (List.mem_append_right name (List.mem_singleton.mpr rfl))
    exact absurd hlower (by decide)
  · next hfree => simpa using hfree

/-- The upper case of a code point has no small letter. -/
theorem isLower_of_mem_upperPoint {p q : CodePoint} (hq : q ∈ Text.Case.upperPoint p) :
    q.satisfies Char.isLower = false := by
  cases q with
  | half n => rfl
  | char c =>
      refine Text.Case.isLower_eq_false_of_mem_upper (s := [p]) ?_
      simpa [Text.Case.upper] using hq

/-- **A reserved word in camel case is a single word**: the second of two would not start with a
small letter. -/
theorem camelCase_mem_reservedWords_iff {parts : List Text} (hparts : ∀ word ∈ parts, word ≠ []) :
    camelCase parts ∈ reservedWords ↔ parts = [parts.flatten] ∧ parts.flatten ∈ reservedWords := by
  match parts with
  | [] =>
      have hnil : ([] : Text) ∉ reservedWords :=
        fun hmem => (isLower_of_mem_reservedWords hmem).1 rfl
      exact iff_of_false hnil fun h => hnil h.2
  | [word] => simp [camelCase]
  | first :: [] :: more => exact absurd rfl (hparts [] (by simp))
  | first :: (c :: rest) :: more =>
      refine iff_of_false (fun hmem => ?_) (by simp)
      obtain ⟨p, ps, hupper⟩ := List.exists_cons_of_ne_nil (Text.Case.upperPoint_ne_nil c)
      have hlower := (isLower_of_mem_reservedWords hmem).2 p (by
        simp [camelCase, Text.Case.capitalize, hupper])
      rw [isLower_of_mem_upperPoint (hupper ▸ List.mem_cons_self)] at hlower
      cases hlower

/-- Camel case is reserved exactly for one word that is reserved, with separators around it. -/
theorem camelName_mem_reservedWords_iff : camelName name ∈ reservedWords ↔
    words (·.satisfies isSeparator) name = [withoutSeparators name] ∧
      withoutSeparators name ∈ reservedWords := by
  rw [camelName, camelCase_mem_reservedWords_iff fun word => ne_nil_of_mem_words, flatten_words]
  rfl

/-! ### The normal form -/

/-- What the argument of a parameter with a name is like. -/
structure IsNormal (name a : Text) : Prop where
  ne_nil : a ≠ []
  not_reserved : a ∉ reservedWords
  /-- In front of the last place there is no separator. -/
  front : ∀ c ∈ a.dropLast, c.satisfies isSeparator = false
  /-- The only separator at the last place is the underscore. -/
  last : ∀ c ∈ a.getLast?, c.satisfies isSeparator = true → c = .char '_'
  /-- It is there behind a reserved word. -/
  underscore : a.getLast? = some (.char '_') ↔ camelName name ∈ reservedWords
  /-- The argument is its own argument. -/
  fixed : argumentName a = .ok a

/-- A name without separators in front of its end is the argument, escaped. -/
theorem argumentName_append_gaps (hne : name ≠ []) (h : ∀ c ∈ name, c.satisfies isSeparator = false)
    {gaps : Text} (hgaps : ∀ c ∈ gaps, c.satisfies isSeparator = true) :
    argumentName (name ++ gaps) = .ok (escapeReserved name) := by
  have hwords := words_append_gaps hne h hgaps
  rw [argumentName_eq, camelName, hwords, if_neg (List.cons_ne_nil _ _), camelCase,
    List.flatMap_nil, List.append_nil]

/-- An argument without separators, escaped, is its own argument: the underscore is taken out and
put back. -/
theorem argumentName_escapeReserved (hne : name ≠ [])
    (h : ∀ c ∈ name, c.satisfies isSeparator = false) :
    argumentName (escapeReserved name) = .ok (escapeReserved name) := by
  have hgaps : ∀ c ∈ (if name ∈ reservedWords then [CodePoint.char '_'] else []),
      c.satisfies isSeparator = true := by
    split
    · decide
    · simp
  have hargument := argumentName_append_gaps hne h hgaps
  rwa [← escapeReserved_eq_append] at hargument

/-- The argument of a name is in normal form. -/
theorem isNormal_of_argumentName (h : argumentName name = .ok a) : IsNormal name a := by
  obtain ⟨hwords, rfl⟩ := argumentName_eq_ok_iff.mp h
  have hne := camelName_ne_nil hwords
  have hfree : ∀ c ∈ camelName name, c.satisfies isSeparator = false :=
    fun c hc => isSeparator_of_mem_camelName hc
  have hlast : ∀ c ∈ (camelName name).getLast?, c.satisfies isSeparator = false :=
    fun c hc => hfree c (List.mem_of_getLast? hc)
  have hreserved := escapeReserved_not_mem (camelName name)
  have hfixed := argumentName_escapeReserved hne hfree
  rw [escapeReserved_eq_append] at hreserved hfixed ⊢
  by_cases hword : camelName name ∈ reservedWords
  · rw [if_pos hword] at hreserved hfixed ⊢
    refine ⟨by simp, hreserved, ?_, by simp, by simp [hword], hfixed⟩
    rwa [List.dropLast_concat]
  · rw [if_neg hword, List.append_nil] at hreserved hfixed ⊢
    refine ⟨hne, hreserved, fun c hc => hfree c (List.dropLast_subset _ hc), ?_, ?_, hfixed⟩
    · intro c hc hsep
      rw [hlast c hc] at hsep
      cases hsep
    · refine iff_of_false (fun hc => ?_) hword
      exact absurd (hlast _ hc) (by decide)

/-- **Names of arguments are in normal form.** Only separators have none; every other name has one,
with an underscore at its end exactly if the name in camel case is a reserved word, and that is
exactly if it is a single word between separators and a reserved one. -/
theorem argumentName_normal_form (name : Text) :
    (argumentName name = .error (.unnameable name) ↔
      ∀ c ∈ name, c.satisfies isSeparator = true) ∧
    ((∃ a, argumentName name = .ok a ∧ IsNormal name a) ↔
      ∃ c ∈ name, c.satisfies isSeparator = false) ∧
    (camelName name ∈ reservedWords ↔
      words (·.satisfies isSeparator) name = [withoutSeparators name] ∧
        withoutSeparators name ∈ reservedWords) := by
  have hsome : words (·.satisfies isSeparator) name ≠ [] ↔
      ∃ c ∈ name, c.satisfies isSeparator = false := by
    rw [Ne, words_eq_nil_iff]
    simp
  refine ⟨?_, ?_, camelName_mem_reservedWords_iff⟩
  · rw [argumentName_eq, ← words_eq_nil_iff]
    simp
  · rw [← hsome]
    constructor
    · rintro ⟨a, ha, -⟩
      exact (argumentName_eq_ok_iff.mp ha).1
    · intro h
      have ha := argumentName_eq_ok_iff.mpr ⟨h, rfl⟩
      exact ⟨_, ha, isNormal_of_argumentName ha⟩

-- the escape is itself a separator, and what stands in front of it is escaped again
example : argumentName "_new_" = .ok "new_" ∧ argumentName "new_" = .ok "new_" :=
  ⟨rfl, rfl⟩

end ClientScribe.Identifier
