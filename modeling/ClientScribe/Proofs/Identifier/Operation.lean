import ClientScribe.Api.Operation
import ClientScribe.Proofs.Identifier.Argument
import ClientScribe.Proofs.Identifier.Group
import Mathlib.Data.List.Basic

/-!
# Names of Operations Without an Id

An operation without an id is called by its method and the words of its path, each with a capital.
Whatever is no letter or digit of ASCII only separates words, so the name consists of letters and
digits, and but for the capitals it is the method and what the path has of them, in order
(`lower_operationName`).

Such a name starts with a small letter, as methods do. A word of the path brings a capital or a
digit into it, and no reserved word has one. So the name can be a reserved word only if the path has
no word at all, and then it is one for one of the methods (`operationName_mem_reservedWords_iff`).
-/

namespace ClientScribe

namespace Text.Case

variable {c : Char} {s before : Text}

/-- Letters and digits are in ASCII. -/
theorem toNat_lt_of_isAlphanum (h : c.isAlphanum = true) : c.toNat < 128 :=
  Identifier.toNat_lt_of_isPlainAscii (by rw [Identifier.isPlainAscii, h, Bool.or_true])

/-- A letter or digit in upper case: a letter or digit, no small letter, and the same in lower
case. -/
structure IsRaised (c d : Char) : Prop where
  isAlphanum : d.isAlphanum = true
  not_isLower : d.isLower = false
  toLower : d.toLower = c.toLower

instance (c d : Char) : Decidable (IsRaised c d) :=
  decidable_of_iff (d.isAlphanum = true ∧ d.isLower = false ∧ d.toLower = c.toLower)
    ⟨fun h => ⟨h.1, h.2.1, h.2.2⟩, fun h => ⟨h.isAlphanum, h.not_isLower, h.toLower⟩⟩

/-- The capital of a letter or digit is that in upper case. -/
theorem isRaised_toUpper (h : c.isAlphanum = true) : IsRaised c c.toUpper := by
  have hascii := toNat_lt_of_isAlphanum h
  have hall : ∀ n : Fin 128, (Char.ofNat n).isAlphanum = true →
      IsRaised (Char.ofNat n) (Char.ofNat n).toUpper := by decide +kernel
  revert h
  exact forall_ascii hascii hall

/-- The upper case of a character in ASCII is its capital. -/
theorem upperPoint_of_ascii (h : c.toNat < 128) : upperPoint (.char c) = [.char c.toUpper] := by
  rw [upperPoint, upperChar, if_pos h]
  rfl

/-- Behind any text, a text in ASCII has the lower case of its characters. -/
theorem lowerAfter_of_ascii (h : ∀ p ∈ s, p.satisfies (·.toNat < 128) = true) :
    lowerAfter before s = s.map (·.mapChar Char.toLower) := by
  induction s generalizing before with
  | nil => rfl
  | cons p s ih =>
      obtain ⟨hp, hs⟩ := List.forall_mem_cons.mp h
      cases p with
      | half n => cases hp
      | char c =>
          have hc : c.toNat < 128 := of_decide_eq_true hp
          have hsigma : (c.toNat == 0x3A3) = false := beq_false_of_ne (by omega)
          simp only [lowerAfter, hsigma, Bool.false_eq_true, if_false, lowerChar, if_pos hc,
            ih hs, List.map_cons]
          rfl

/-- **The lower case of a text in ASCII** is that of its characters. -/
theorem lower_of_ascii (h : ∀ p ∈ s, p.satisfies (·.toNat < 128) = true) :
    lower s = s.map (·.mapChar Char.toLower) :=
  lowerAfter_of_ascii h

end Text.Case

namespace Identifier

open Text.Case (capitalize lower)

variable {method path word : Text}

/-! ### The words of a path -/

/-- The words of a path. -/
def pathWords (path : Text) : List Text := words (!·.satisfies Char.isAlphanum) path

/-- The letters and digits of a path. -/
def lettersOf (path : Text) : Text := path.filter (·.satisfies Char.isAlphanum)

/-- The name of an operation is its method in lower case and the words of its path in camel case. -/
theorem operationName_eq (method path : Text) :
    operationName method path = lower method ++ (pathWords path).flatMap capitalize := rfl

/-- The words of a path hold its letters and digits. -/
theorem flatten_pathWords (path : Text) : (pathWords path).flatten = lettersOf path := by
  rw [pathWords, flatten_words, lettersOf]
  simp only [Bool.not_not]

/-- A path has no words exactly when it has no letters and no digits. -/
theorem pathWords_eq_nil_iff :
    pathWords path = [] ↔ ∀ c ∈ path, c.satisfies Char.isAlphanum = false := by
  rw [pathWords, words_eq_nil_iff]
  simp only [Bool.not_eq_true']

/-- Words consist of letters and digits. -/
theorem isAlphanum_of_mem_pathWords (hword : word ∈ pathWords path) :
    ∀ c ∈ word, c.satisfies Char.isAlphanum = true := by
  intro c hc
  have hmem : c ∈ lettersOf path := flatten_pathWords path ▸ List.mem_flatten_of_mem hword hc
  exact (List.mem_filter.mp hmem).2

/-- Letters and digits are in ASCII. -/
theorem isAscii_of_isAlphanum {c : CodePoint} (h : c.satisfies Char.isAlphanum = true) :
    c.satisfies (·.toNat < 128) = true := by
  cases c with
  | half n => cases h
  | char c => exact decide_eq_true (Text.Case.toNat_lt_of_isAlphanum h)

/-- A word of letters and digits with a capital: its first character is raised, and the others
stay. -/
theorem exists_capitalize_eq (hne : word ≠ [])
    (h : ∀ c ∈ word, c.satisfies Char.isAlphanum = true) :
    ∃ c d rest, word = .char c :: rest ∧ capitalize word = .char d :: rest ∧
      Text.Case.IsRaised c d := by
  obtain ⟨first, rest, rfl⟩ := List.exists_cons_of_ne_nil hne
  have hfirst := h first List.mem_cons_self
  cases first with
  | half n => cases hfirst
  | char c =>
      refine ⟨c, c.toUpper, rest, rfl, ?_, Text.Case.isRaised_toUpper hfirst⟩
      rw [capitalize, Text.Case.upperPoint_of_ascii (Text.Case.toNat_lt_of_isAlphanum hfirst)]
      rfl

/-- A capitalised word consists of letters and digits if the word does. -/
theorem isAlphanum_of_mem_capitalize (h : ∀ c ∈ word, c.satisfies Char.isAlphanum = true) :
    ∀ c ∈ capitalize word, c.satisfies Char.isAlphanum = true := by
  intro c hc
  have hne : word ≠ [] := by
    rintro rfl
    cases hc
  obtain ⟨first, raised, rest, rfl, hcapital, hraised⟩ := exists_capitalize_eq hne h
  rw [hcapital] at hc
  obtain rfl | hc := List.mem_cons.mp hc
  · exact hraised.isAlphanum
  · exact h c (List.mem_cons_of_mem _ hc)

/-- The capital of a word is gone in lower case. -/
theorem map_toLower_capitalize (h : ∀ c ∈ word, c.satisfies Char.isAlphanum = true) :
    (capitalize word).map (·.mapChar Char.toLower) = word.map (·.mapChar Char.toLower) := by
  by_cases hne : word = []
  · subst hne
    rfl
  · obtain ⟨first, raised, rest, rfl, hcapital, hraised⟩ := exists_capitalize_eq hne h
    rw [hcapital, List.map_cons, List.map_cons, CodePoint.mapChar, CodePoint.mapChar,
      hraised.toLower]

/-! ### The name -/

/-- Methods are words of small letters. -/
theorem isLower_of_mem_methods (hmethod : method ∈ Api.methods) :
    method ≠ [] ∧ (∀ c ∈ method, c.satisfies Char.isLower = true) ∧ lower method = method := by
  have hall : ∀ method ∈ Api.methods, method ≠ [] ∧
      method.all (·.satisfies Char.isLower) = true ∧ lower method = method := by decide +kernel
  obtain ⟨hne, hletters, hlower⟩ := hall method hmethod
  exact ⟨hne, List.all_eq_true.mp hletters, hlower⟩

/-- A small letter is a letter or digit. -/
theorem isAlphanum_of_isLower {c : CodePoint} (h : c.satisfies Char.isLower = true) :
    c.satisfies Char.isAlphanum = true := by
  cases c with
  | half n => cases h
  | char c =>
      have halpha : c.isAlpha = true := Text.Case.isAlpha_iff.mpr (.inr h)
      simp [CodePoint.satisfies, Char.isAlphanum, halpha]

/-- The name consists of letters and digits. -/
theorem isAlphanum_of_mem_operationName (hmethod : method ∈ Api.methods) :
    ∀ c ∈ operationName method path, c.satisfies Char.isAlphanum = true := by
  obtain ⟨-, hletters, hlower⟩ := isLower_of_mem_methods hmethod
  intro c hc
  rw [operationName_eq, hlower] at hc
  obtain hc | hc := List.mem_append.mp hc
  · exact isAlphanum_of_isLower (hletters c hc)
  · obtain ⟨word, hword, hc⟩ := List.mem_flatMap.mp hc
    exact isAlphanum_of_mem_capitalize (isAlphanum_of_mem_pathWords hword) c hc

/-- The name starts with a small letter. -/
theorem exists_operationName_eq_cons (hmethod : method ∈ Api.methods) (path : Text) :
    ∃ c rest, operationName method path = .char c :: rest ∧ c.isLower = true := by
  obtain ⟨hne, hletters, hlower⟩ := isLower_of_mem_methods hmethod
  obtain ⟨first, rest, rfl⟩ := List.exists_cons_of_ne_nil hne
  have hfirst := hletters first List.mem_cons_self
  cases first with
  | half n => cases hfirst
  | char c => exact ⟨c, _, by rw [operationName_eq, hlower, List.cons_append], hfirst⟩

/-- **The name in lower case** is the method, and behind it the letters and digits of the path. -/
theorem lower_operationName (hmethod : method ∈ Api.methods) (path : Text) :
    lower (operationName method path) = method ++ lower (lettersOf path) := by
  obtain ⟨-, hletters, hlower⟩ := isLower_of_mem_methods hmethod
  have hmethodAscii : ∀ c ∈ method, c.satisfies (·.toNat < 128) = true :=
    fun c hc => isAscii_of_isAlphanum (isAlphanum_of_isLower (hletters c hc))
  have hname : ∀ c ∈ operationName method path, c.satisfies (·.toNat < 128) = true :=
    fun c hc => isAscii_of_isAlphanum (isAlphanum_of_mem_operationName hmethod c hc)
  have hpath : ∀ c ∈ lettersOf path, c.satisfies (·.toNat < 128) = true :=
    fun c hc => isAscii_of_isAlphanum (List.mem_filter.mp hc).2
  have hwords : ((pathWords path).flatMap capitalize).map (·.mapChar Char.toLower) =
      (lettersOf path).map (·.mapChar Char.toLower) := by
    rw [← flatten_pathWords, List.map_flatMap, List.map_flatten, ← List.flatMap_def]
    exact List.flatMap_congr fun word hword =>
      map_toLower_capitalize (isAlphanum_of_mem_pathWords hword)
  rw [Text.Case.lower_of_ascii hname, operationName_eq, List.map_append, hwords,
    ← Text.Case.lower_of_ascii hpath, hlower, ← Text.Case.lower_of_ascii hmethodAscii, hlower]

/-- A word of the path has a character that is no small letter. -/
theorem exists_not_isLower_of_pathWords (h : pathWords path ≠ []) :
    ∃ c ∈ operationName method path, c.satisfies Char.isLower = false := by
  obtain ⟨word, more, hwords⟩ := List.exists_cons_of_ne_nil h
  have hword : word ∈ pathWords path := hwords ▸ List.mem_cons_self
  obtain ⟨first, raised, rest, -, hcapital, hraised⟩ :=
    exists_capitalize_eq (ne_nil_of_mem_words hword) (isAlphanum_of_mem_pathWords hword)
  refine ⟨.char raised, ?_, hraised.not_isLower⟩
  rw [operationName_eq, hwords, List.flatMap_cons, hcapital]
  simp

/-- **When the name is a reserved word**: for the method `delete`, if the path has no word. -/
theorem operationName_mem_reservedWords_iff (hmethod : method ∈ Api.methods) :
    operationName method path ∈ reservedWords ↔
      method = "delete" ∧ ∀ c ∈ path, c.satisfies Char.isAlphanum = false := by
  obtain ⟨-, -, hlower⟩ := isLower_of_mem_methods hmethod
  have hmethods : ∀ method ∈ Api.methods, method ∈ reservedWords ↔ method = "delete" := by
    decide +kernel
  rw [← pathWords_eq_nil_iff]
  by_cases hwords : pathWords path = []
  · rw [operationName_eq, hwords, hlower, List.flatMap_nil, List.append_nil, hmethods _ hmethod]
    simp
  · refine iff_of_false (fun hmem => ?_) fun h => hwords h.2
    obtain ⟨c, hc, hlower⟩ := exists_not_isLower_of_pathWords hwords
    rw [(isLower_of_mem_reservedWords hmem).2 c hc] at hlower
    cases hlower

/-- **Names from methods and paths.** For every method and every path the name of an operation
consists of letters and digits of ASCII, the first of them a small letter; in lower case it is the
method and the letters and digits of the path, in order; and it is a reserved word exactly for the
method `delete` of a path without letters and digits. -/
theorem operationName_usable (hmethod : method ∈ Api.methods) (path : Text) :
    (∃ c rest, operationName method path = .char c :: rest ∧ c.isLower = true) ∧
    (∀ c ∈ operationName method path, c.satisfies Char.isAlphanum = true) ∧
    lower (operationName method path) =
      method ++ lower (path.filter (·.satisfies Char.isAlphanum)) ∧
    (operationName method path ∈ reservedWords ↔
      method = "delete" ∧ ∀ c ∈ path, c.satisfies Char.isAlphanum = false) :=
  ⟨exists_operationName_eq_cons hmethod path, isAlphanum_of_mem_operationName hmethod,
    lower_operationName hmethod path, operationName_mem_reservedWords_iff hmethod⟩

/-- A path with a word that is no word of ASCII throughout, for a method that is a reserved word. -/
theorem operationName_usable_secondHouses : Text.ofString "delete" ∈ Api.methods ∧
    operationName "delete" "/2nd-häuser/{petId}" = "delete2ndHUserPetId" ∧
    lower (operationName "delete" "/2nd-häuser/{petId}") = "delete2ndhuserpetid" ∧
    operationName "delete" "/2nd-häuser/{petId}" ∉ reservedWords := by
  have hmethod : Text.ofString "delete" ∈ Api.methods := by decide
  obtain ⟨-, -, hlower, hreserved⟩ := operationName_usable hmethod "/2nd-häuser/{petId}"
  refine ⟨hmethod, by decide +kernel, hlower.trans (by decide +kernel), ?_⟩
  rw [hreserved]
  rintro ⟨-, hnone⟩
  exact absurd (hnone (.char '2') (by decide)) (by decide)

/-- **A reserved word for a name.** The root of a service has a path without words. -/
theorem exists_operationName_reserved : ∃ method ∈ Api.methods, ∃ path,
    operationName method path ∈ reservedWords :=
  ⟨"delete", by decide, "/", by decide +kernel⟩

end Identifier

end ClientScribe
