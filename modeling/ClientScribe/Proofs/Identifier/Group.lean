import ClientScribe.Identifier.Basic
import ClientScribe.Proofs.Result
import ClientScribe.Proofs.Text.UpperCase

/-!
# What Groups Are Called

A tag may be any text, but the name of a group keeps of it only plain characters, from the first one
on that is no digit, and where nothing is left the group has the default name. So the name of a
group is never empty, and no character that means something in a path or in a comment is in it
(`IsPlainName.notMem`).

The plain characters are those of an alphabet in ASCII and, beyond it, the four that belong to one
of its letters if case does not matter. The name of a group is in the alphabet exactly if the tag
has none of these four. In either alphabet, a tag that has the form of a name is the name.
-/

namespace ClientScribe.Identifier

open Document (Value)

variable {name tag : Text} {tags : Value} {alphabet : Char → Bool} {c : Char}

/-- A name of plain characters, and of one at least. -/
structure IsPlainName (name : Text) : Prop where
  ne_nil : name ≠ []
  plain : ∀ c ∈ name, c.satisfies isPlainKeyChar = true

/-- A character that is not plain is in no such name. -/
theorem IsPlainName.notMem (h : IsPlainName name) {c : Char} (hc : isPlainKeyChar c = false) :
    .char c ∉ name := by
  intro hmem
  have hplain : isPlainKeyChar c = true := h.plain _ hmem
  rw [hc] at hplain
  cases hplain

/-- The group without a tag has a plain name. -/
theorem isPlainName_defaultGroup : IsPlainName defaultGroup := ⟨by decide, by decide⟩

/-- The name that a tag gives to a group is plain, whatever the tag. -/
theorem isPlainName_groupOfTag (tag : Text) : IsPlainName (groupOfTag tag) := by
  unfold groupOfTag
  dsimp only
  split
  · exact isPlainName_defaultGroup
  · next hne =>
    refine ⟨fun hnil => hne (List.isEmpty_iff.mpr hnil), fun c hc => ?_⟩
    exact (List.mem_filter.mp ((List.dropWhile_sublist _).mem hc)).2

/-- **The name of a group is plain.** -/
theorem isPlainName_of_groupName (h : groupName tags = .ok name) : IsPlainName name := by
  unfold groupName at h
  split at h
  · simp only [Result.bind_eq_ok_iff, Result.pure_def, Except.ok.injEq] at h
    obtain ⟨_, -, tag, -, rfl⟩ := h
    exact isPlainName_groupOfTag tag
  · exact Except.ok.inj h ▸ isPlainName_defaultGroup

/-! ### Plain characters -/

/-- The plain characters of ASCII. -/
def isPlainAscii (c : Char) : Bool := c == '_' || c == '$' || c.isAlphanum

/-- The characters beyond ASCII that are plain: the capital I with a dot and the small one without,
the long s, and the sign of the kelvin. -/
def plainBeyondAscii : List Char := ['\u0130', '\u0131', '\u017f', '\u212a']

/-- The plain characters of ASCII are in ASCII. -/
theorem toNat_lt_of_isPlainAscii (h : isPlainAscii c = true) : c.toNat < 128 := by
  have halphanum : c.isAlphanum = (c.isAlpha || c.isDigit) := rfl
  have hdigit : c.isDigit = (decide (48 ≤ c.toNat) && decide (c.toNat ≤ 57)) := rfl
  simp only [isPlainAscii, halphanum, hdigit, Bool.or_eq_true, beq_iff_eq, Bool.and_eq_true,
    decide_eq_true_eq, Text.Case.isAlpha_iff, Text.Case.isUpper_iff, Text.Case.isLower_iff] at h
  obtain (rfl | rfl) | h := h
  · decide
  · decide
  · omega

/-- The plain characters are those of ASCII and the four beyond it. -/
theorem isPlainKeyChar_eq (c : Char) :
    isPlainKeyChar c = (isPlainAscii c || plainBeyondAscii.contains c) := by
  have hbeyond : plainBeyondAscii.contains c =
      (c.toNat == 0x130 || c.toNat == 0x131 || c.toNat == 0x17F || c.toNat == 0x212A) := by
    rw [Bool.eq_iff_iff]
    simp [plainBeyondAscii, ← Char.toNat_inj, or_assoc]
  rw [isPlainKeyChar, isPlainLetter, isPlainAscii, hbeyond]
  ac_rfl

/-- No plain character is both in ASCII and beyond it. -/
theorem isPlainAscii_of_mem (h : c ∈ plainBeyondAscii) : isPlainAscii c = false := by
  have hall : (plainBeyondAscii.all fun c => !isPlainAscii c) = true := by decide
  simpa using List.all_eq_true.mp hall c h

/-! ### The form of names -/

/-- The form of the name of a group: some characters of an alphabet, and no digit in front. -/
structure HasForm (alphabet : Char → Bool) (name : Text) : Prop where
  ne_nil : name ≠ []
  letters : ∀ c ∈ name, c.satisfies alphabet = true
  start : ∀ c ∈ name.head?, c.satisfies Char.isDigit = false

/-- A name of a group in ASCII has the form of one with plain characters. -/
theorem HasForm.plain (h : HasForm isPlainAscii name) : HasForm isPlainKeyChar name := by
  refine ⟨h.ne_nil, fun c hc => ?_, h.start⟩
  have hascii := h.letters c hc
  cases c with
  | half n => cases hascii
  | char c =>
      rw [CodePoint.satisfies] at hascii ⊢
      rw [isPlainKeyChar_eq, hascii, Bool.true_or]

/-- The group without a tag has a name of the form in ASCII. -/
theorem hasForm_defaultGroup : HasForm isPlainAscii defaultGroup :=
  ⟨by decide, by decide, by decide⟩

/-- What a tag gives to the name of a group, if it is not empty. -/
def nameInTag (tag : Text) : Text :=
  (tag.filter (·.satisfies isPlainKeyChar)).dropWhile (·.satisfies Char.isDigit)

/-- A tag gives its own name to a group, or the default if nothing of it is left. -/
theorem groupOfTag_eq (tag : Text) :
    groupOfTag tag = if nameInTag tag = [] then defaultGroup else nameInTag tag := by
  rw [groupOfTag, ← nameInTag]
  simp only [List.isEmpty_iff]

/-- The name that a tag gives to a group has the form of one, whatever the tag. -/
theorem hasForm_groupOfTag (tag : Text) : HasForm isPlainKeyChar (groupOfTag tag) := by
  refine ⟨(isPlainName_groupOfTag tag).ne_nil, (isPlainName_groupOfTag tag).plain, ?_⟩
  rw [groupOfTag_eq]
  split
  · exact hasForm_defaultGroup.start
  · intro c hc
    have hfirst := List.head?_dropWhile_not (·.satisfies Char.isDigit)
      (tag.filter (·.satisfies isPlainKeyChar))
    rw [← nameInTag, Option.mem_def.mp hc] at hfirst
    exact hfirst

/-- A tag that has the form of a name is the name. -/
theorem groupOfTag_eq_self (h : HasForm isPlainKeyChar tag) : groupOfTag tag = tag := by
  have hname : nameInTag tag = tag := by
    rw [nameInTag, List.filter_eq_self.mpr h.letters]
    obtain ⟨c, rest, rfl⟩ := List.exists_cons_of_ne_nil h.ne_nil
    exact List.dropWhile_cons_of_neg (by simp [h.start c rfl])
  rw [groupOfTag_eq, hname, if_neg h.ne_nil]

/-- A plain character of a tag that is no digit is in the name. -/
theorem mem_groupOfTag {c : CodePoint} (hc : c ∈ tag) (hplain : c.satisfies isPlainKeyChar = true)
    (hdigit : c.satisfies Char.isDigit = false) : c ∈ groupOfTag tag := by
  have hmem : c ∈ nameInTag tag := by
    have hkept : c ∈ tag.filter (·.satisfies isPlainKeyChar) := List.mem_filter.mpr ⟨hc, hplain⟩
    have hsplit := List.takeWhile_append_dropWhile (l := tag.filter (·.satisfies isPlainKeyChar))
      (p := (·.satisfies Char.isDigit))
    rw [← hsplit, List.mem_append] at hkept
    refine hkept.resolve_left fun hfront => ?_
    have hdigits := List.all_eq_true.mp List.all_takeWhile c hfront
    rw [hdigit] at hdigits
    cases hdigits
  rw [groupOfTag_eq, if_neg (List.ne_nil_of_mem hmem)]
  exact hmem

/-- The characters of the name are those of the tag, or of the default name. -/
theorem mem_of_mem_groupOfTag {c : CodePoint} (hc : c ∈ groupOfTag tag) :
    c ∈ defaultGroup ∨ c ∈ tag := by
  rw [groupOfTag_eq] at hc
  split at hc
  · exact .inl hc
  · exact .inr (List.mem_filter.mp ((List.dropWhile_sublist _).mem hc)).1

/-- The name is in the alphabet of ASCII exactly if the tag has no plain character beyond it. -/
theorem hasForm_isPlainAscii_iff : HasForm isPlainAscii (groupOfTag tag) ↔
    ∀ c ∈ plainBeyondAscii, .char c ∉ tag := by
  have hform := hasForm_groupOfTag tag
  constructor
  · intro h c hc hmem
    have hall : (plainBeyondAscii.all fun c => !c.isDigit) = true := by decide
    have hdigit : c.isDigit = false := by simpa using List.all_eq_true.mp hall c hc
    have hplain : isPlainKeyChar c = true := by
      rw [isPlainKeyChar_eq, List.contains_iff_mem.mpr hc, Bool.or_true]
    have hascii : isPlainAscii c = true := h.letters _ (mem_groupOfTag hmem hplain hdigit)
    rw [isPlainAscii_of_mem hc] at hascii
    cases hascii
  · intro h
    refine ⟨hform.ne_nil, fun c hc => ?_, hform.start⟩
    have hplain := hform.letters c hc
    cases c with
    | half n => cases hplain
    | char c =>
        obtain hdefault | hmem := mem_of_mem_groupOfTag hc
        · exact hasForm_defaultGroup.letters _ hdefault
        · rw [CodePoint.satisfies, isPlainKeyChar_eq, Bool.or_eq_true, List.contains_iff_mem]
            at hplain
          exact hplain.resolve_right fun hbeyond => h c hbeyond hmem

/-! ### Tags -/

/-- Tags as a value. -/
def tagList (tags : List Text) : Value := .list (tags.map .str)

/-- The first tag names the group, and without tags the default does. -/
theorem groupName_tagList (tags : List Text) :
    groupName (tagList tags) = .ok ((tags.head?.map groupOfTag).getD defaultGroup) := by
  cases tags with
  | nil => rfl
  | cons tag more => rfl

/-- **The names of groups.** Any tags give a name in the form of one. It is in the alphabet of ASCII
exactly if the first tag has no plain character beyond it; it is the first tag if this has the form
of a name in ASCII; and as a tag it gives itself. -/
theorem groupName_hasForm (tags : List Text) : ∃ name, groupName (tagList tags) = .ok name ∧
    HasForm isPlainKeyChar name ∧
    (HasForm isPlainAscii name ↔ ∀ tag ∈ tags.head?, ∀ c ∈ plainBeyondAscii, .char c ∉ tag) ∧
    (∀ tag ∈ tags.head?, HasForm isPlainAscii tag → name = tag) ∧
    groupName (tagList [name]) = .ok name := by
  refine ⟨_, groupName_tagList tags, ?_⟩
  cases tags with
  | nil =>
      have hself : groupName (tagList [defaultGroup]) = .ok defaultGroup := rfl
      exact ⟨hasForm_defaultGroup.plain, by simp [hasForm_defaultGroup], by simp, hself⟩
  | cons tag more =>
      have hform := hasForm_groupOfTag tag
      refine ⟨hform, by simpa using hasForm_isPlainAscii_iff, ?_, ?_⟩
      · intro first hfirst h
        obtain rfl : tag = first := Option.some.inj hfirst
        exact groupOfTag_eq_self h.plain
      · rw [groupName_tagList]
        exact congrArg Except.ok (groupOfTag_eq_self hform)

/-- A tag with spaces and digits, and with a letter beyond ASCII that is not plain. -/
theorem groupName_hasForm_petStore : ∃ name,
    groupName (tagList ["2 Pet-Störe", "store"]) = .ok name ∧ name = "PetStre" ∧
      HasForm isPlainAscii name ∧ groupName (tagList [name]) = .ok name := by
  obtain ⟨name, hname, -, hascii, -, hself⟩ := groupName_hasForm ["2 Pet-Störe", "store"]
  refine ⟨name, hname, Except.ok.inj (hname.symm.trans rfl), hascii.mpr ?_, hself⟩
  intro tag hfirst
  obtain rfl : "2 Pet-Störe" = tag := Option.some.inj hfirst
  have hall :
      (plainBeyondAscii.all fun c => !("2 Pet-Störe" : Text).contains (.char c)) = true := by
    decide
  simpa using hall

/-- **A name beyond ASCII.** The long s is plain, and it stays. -/
theorem exists_groupName_beyond_ascii : ∃ tags name, groupName (tagList tags) = .ok name ∧
    ¬ HasForm isPlainAscii name :=
  ⟨["pets\u017f"], "pets\u017f", rfl, fun h => absurd (h.letters (.char '\u017f') (by decide))
    (by decide)⟩

end ClientScribe.Identifier
