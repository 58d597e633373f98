import ClientScribe.Proofs.Client.ParameterBinding
import ClientScribe.Proofs.Identifier.Group
import ClientScribe.Proofs.Script.ObjectKey

/-!
# Names on the Wire

A request carries each parameter under a key of an object literal, which is meant to be the name of
the parameter: as it is, if it is plain, and between quotes otherwise. Nothing is escaped, and plain
names may start with a digit or end with a line break, as no identifier does. So the key is the name
exactly if the name has no quote, no backslash and no end of a line, and is no plain name with a
digit in front (`objectKey_propertyKey_append_iff`). The entries of a request have these keys, and
what they pass on does not change how the keys are read (`entryKey_of_isPassage_iff`).
-/

namespace ClientScribe.Client

open Document (Value record)
open Identifier (isPlainAscii isPlainKey isPlainKeyChar plainBeyondAscii propertyKey)
open Script (behindName endsLine entryKey isIdentifierName isNamePart isNameStart nameIn objectKey)

variable {name s k rest : Text} {c : CodePoint}

/-! ### Plain names -/

/-- Plain characters are parts of identifiers, and only the digits cannot be the first. -/
theorem isNamePart_of_isPlainKeyChar {c : Char} (h : isPlainKeyChar c = true) :
    isNamePart c = true ∧ isNameStart c = !c.isDigit := by
  rw [Identifier.isPlainKeyChar_eq, Bool.or_eq_true, List.contains_iff_mem] at h
  obtain hascii | hbeyond := h
  · have hall : ∀ n : Fin 128, isPlainAscii (Char.ofNat n) = true →
        isNamePart (Char.ofNat n) = true ∧
          isNameStart (Char.ofNat n) = !(Char.ofNat n).isDigit := by decide +kernel
    have hlt := Identifier.toNat_lt_of_isPlainAscii hascii
    revert hascii
    exact Text.Case.forall_ascii hlt hall
  · have hall : (plainBeyondAscii.all fun c =>
        isNamePart c && isNameStart c == !c.isDigit) = true := by decide +kernel
    simpa using List.all_eq_true.mp hall c hbeyond

/-- A plain character is none that is not plain. -/
theorem ne_char_of_plain {d : Char} (h : c.satisfies isPlainKeyChar = true)
    (hd : isPlainKeyChar d = false) : c ≠ .char d := by
  rintro rfl
  rw [CodePoint.satisfies, hd] at h
  cases h

/-- A text of plain characters is read as it is, unless a digit is in front. -/
theorem objectKey_append_of_plain (hplain : ∀ d ∈ c :: s, d.satisfies isPlainKeyChar = true)
    (hk : ∀ d ∈ k.head?, d.satisfies isNamePart = false) :
    objectKey (c :: s ++ k) =
      if c.satisfies Char.isDigit then none else some (Text.units (c :: s), k) := by
  have hparts : ∀ d ∈ c :: s, d.satisfies isNamePart = true := by
    intro d hd
    cases d with
    | half n => exact hplain _ hd
    | char d => exact (isNamePart_of_isPlainKeyChar (hplain _ hd)).1
  have hname : isIdentifierName (c :: s) = !c.satisfies Char.isDigit := by
    rw [isIdentifierName, List.all_eq_true.mpr (List.forall_mem_cons.mp hparts).2, Bool.and_true]
    cases c with
    | half n => cases hplain _ List.mem_cons_self
    | char c => exact (isNamePart_of_isPlainKeyChar (hplain _ List.mem_cons_self)).2
  have hquote : c ≠ .char '\'' := ne_char_of_plain (hplain _ List.mem_cons_self) (by decide)
  obtain ⟨hnameIn, hbehind⟩ := Script.nameIn_append hparts hk
  rw [Script.objectKey_of_head_ne (by simpa using hquote), hnameIn, hbehind, hname]
  cases c.satisfies Char.isDigit <;> rfl

/-- A plain name has plain characters, at least one, and perhaps a line break behind them. -/
theorem exists_of_isPlainKey (h : isPlainKey name = true) : ∃ c s,
    (∀ d ∈ c :: s, d.satisfies isPlainKeyChar = true) ∧
      (name = c :: s ∨ name = c :: s ++ [.char '\n']) := by
  simp only [isPlainKey, Bool.and_eq_true, Bool.not_eq_true', List.isEmpty_eq_false_iff,
    List.all_eq_true, beq_iff_eq] at h
  obtain ⟨hne, hplain⟩ := h
  obtain ⟨c, s, hbody⟩ := List.exists_cons_of_ne_nil hne
  rw [hbody] at hplain
  refine ⟨c, s, hplain, ?_⟩
  split at hbody
  · next hlast =>
    obtain ⟨body, rfl⟩ := List.getLast?_eq_some_iff.mp hlast
    rw [List.dropLast_concat] at hbody
    exact .inr (hbody ▸ rfl)
  · exact .inl hbody

/-! ### Keys -/

/-- A name that is its own key. -/
structure IsFaithfulKey (name : Text) : Prop where
  unescaped : ∀ c ∈ name, c ≠ .char '\'' ∧ c ≠ .char '\\' ∧ endsLine c = false
  start : isPlainKey name = true → ∀ c ∈ name.head?, c.satisfies Char.isDigit = false

/-- Nothing that has to be escaped is plain. -/
theorem unescaped_of_plain (h : c.satisfies isPlainKeyChar = true) :
    c ≠ .char '\'' ∧ c ≠ .char '\\' ∧ endsLine c = false := by
  refine ⟨ne_char_of_plain h (by decide), ne_char_of_plain h (by decide), ?_⟩
  simp [endsLine, ne_char_of_plain h (show isPlainKeyChar '\n' = false by decide),
    ne_char_of_plain h (show isPlainKeyChar '\r' = false by decide)]

/-- Between quotes a name is its own key if nothing in it has to be escaped. -/
theorem objectKey_append_iff_of_quoted (hkey : isPlainKey name = false) :
    objectKey (propertyKey name ++ k) = some (name.units, rest) ↔
      IsFaithfulKey name ∧ rest = k := by
  have htext : propertyKey name ++ k = .char '\'' :: (name ++ .char '\'' :: k) := by
    simp [propertyKey, hkey, Text.ofString, Text.ofChars]
  rw [htext, Script.objectKey_quote, Script.literalFrom_append_iff]
  refine and_congr_left fun _ => ⟨fun h => ⟨h, ?_⟩, fun h => h.unescaped⟩
  simp [hkey]

/-- A text of plain characters is its own key if no digit is in front. -/
theorem objectKey_append_iff_of_plain (hplain : ∀ d ∈ c :: s, d.satisfies isPlainKeyChar = true)
    (hkey : isPlainKey (c :: s) = true) (hk : ∀ d ∈ k.head?, d.satisfies isNamePart = false) :
    objectKey (c :: s ++ k) = some (Text.units (c :: s), rest) ↔
      IsFaithfulKey (c :: s) ∧ rest = k := by
  rw [objectKey_append_of_plain hplain hk]
  cases hdigit : c.satisfies Char.isDigit with
  | false =>
      have hfaithful : IsFaithfulKey (c :: s) :=
        ⟨fun d hd => unescaped_of_plain (hplain d hd), by simp [hdigit]⟩
      simp [hfaithful, eq_comm]
  | true =>
      have hbad : ¬ IsFaithfulKey (c :: s) := fun h => by simpa [hdigit] using h.start hkey
      simp [hbad]

/-- The key of plain characters ends in front of a line break. -/
theorem objectKey_lineBreak_ne (hplain : ∀ d ∈ c :: s, d.satisfies isPlainKeyChar = true) :
    objectKey (c :: s ++ .char '\n' :: k) ≠
      some (Text.units (c :: s ++ [.char '\n']), rest) := by
  have hstop : ∀ d ∈ (CodePoint.char '\n' :: k).head?, d.satisfies isNamePart = false := by
    intro d hd
    obtain rfl := Option.some.inj hd
    decide +kernel
  have hunits : Text.units (c :: s) ≠ Text.units (c :: s ++ [.char '\n']) := by
    rw [Script.LiteralUnion.units_append]
    exact fun h => absurd (List.self_eq_append_right.mp h) (by decide)
  rw [objectKey_append_of_plain hplain hstop]
  intro h
  obtain ⟨-, hread⟩ := Option.ite_none_left_eq_some.mp h
  exact hunits (Prod.mk.inj (Option.some.inj hread)).1

/-- **When a key is the name of its parameter.** -/
theorem objectKey_propertyKey_append_iff (hk : ∀ c ∈ k.head?, c = .char ':') :
    objectKey (propertyKey name ++ k) = some (name.units, rest) ↔
      IsFaithfulKey name ∧ rest = k := by
  cases hkey : isPlainKey name with
  | false => exact objectKey_append_iff_of_quoted hkey
  | true =>
      rw [propertyKey, if_pos hkey]
      obtain ⟨c, s, hplain, rfl | rfl⟩ := exists_of_isPlainKey hkey
      · exact objectKey_append_iff_of_plain hplain hkey (Script.satisfies_of_colon hk)
      · have hbad : ¬ IsFaithfulKey (c :: s ++ [.char '\n']) := fun h =>
          absurd (h.unescaped (.char '\n') (by simp)).2.2 (by decide)
        rw [List.append_assoc, List.singleton_append]
        exact iff_of_false (objectKey_lineBreak_ne hplain) fun h => hbad h.1

/-- An entry has a key of the name exactly if the name is its own key. -/
theorem entryKey_propertyKey_append_iff (hk : ∀ c ∈ k.head?, c = .char ':') :
    entryKey (propertyKey name ++ k) = some name.units ↔ IsFaithfulKey name := by
  constructor
  · intro h
    obtain ⟨⟨units, rest⟩, hread, h⟩ := Option.bind_eq_some_iff.mp h
    obtain ⟨-, hunits⟩ := Option.ite_none_right_eq_some.mp h
    obtain rfl : units = name.units := Option.some.inj hunits
    exact ((objectKey_propertyKey_append_iff hk).mp hread).1
  · intro h
    have hread := (objectKey_propertyKey_append_iff hk).mpr ⟨h, rfl⟩
    have hspace : Json.skipSpace k = k := by
      cases k with
      | nil => rfl
      | cons c k =>
          obtain rfl : c = .char ':' := hk c rfl
          rfl
    have hcolon : k.head?.all (· == .char ':') = true := by
      simpa [Option.all_eq_true] using hk
    rw [entryKey, hread]
    simp [hspace, hcolon]

namespace Passage

variable {p : Passage}

/-- An entry starts with the key of its parameter, and nothing or a colon is behind it. -/
theorem Passes.exists_entry_eq (h : p.Passes) :
    ∃ k : Text, p.entry = p.key ++ k ∧ ∀ c ∈ k.head?, c = .char ':' := by
  have hcolon (first text : Text) (hfirst : first.head? = some (.char ':')) :
      ∀ c ∈ (first ++ text).head?, c = .char ':' := by simp [hfirst]
  cases h with
  | shorthand _ _ _ hentry => exact ⟨[], by rw [hentry, List.append_nil], by simp⟩
  | plain hentry | array _ hentry | date _ hentry =>
      rw [hentry]
      simp only [List.append_assoc]
      exact ⟨_, rfl, hcolon _ _ rfl⟩

end Passage

/-- The key of an entry is the name of its parameter exactly if the name is its own key. -/
theorem entryKey_of_isPassage_iff {document parameter : Value} {p : Passage}
    (hp : IsPassage document parameter p) :
    entryKey p.entry = some p.wireName.units ↔ IsFaithfulKey p.wireName := by
  obtain ⟨k, hentry, hk⟩ := hp.passes.exists_entry_eq
  rw [hentry, Passage.key, entryKey_propertyKey_append_iff hk]

/-- **Which keys are the names of parameters.** The key of a name is read as the name, with nothing
left, exactly if the name is its own key. So it is for the entries of a request: they are those of
the passages of the parameters, and what they pass on is not mistaken for a part of the key. -/
theorem keys_of_requests_iff (name : Text) :
    (objectKey (propertyKey name) = some (name.units, []) ↔ IsFaithfulKey name) ∧
    ∀ document parameters groups, parameterGroups document parameters = .ok groups →
      ∃ passages,
        List.Forall₂ (fun parameter p => IsPassage document parameter p ∧
          (entryKey p.entry = some p.wireName.units ↔ IsFaithfulKey p.wireName))
          parameters passages ∧
        (groups.flatMap ParameterGroup.entries).Perm (passages.map Passage.entry) := by
  refine ⟨?_, fun document parameters groups h => ?_⟩
  · have hread : objectKey (propertyKey name ++ []) = some (name.units, []) ↔ _ :=
      objectKey_propertyKey_append_iff (by simp)
    rw [List.append_nil] at hread
    simpa using hread
  · obtain ⟨passages, hpassages, rfl⟩ := exists_passages_of_parameterGroups h
    refine ⟨passages, hpassages.imp fun _ _ hp => ⟨hp, entryKey_of_isPassage_iff hp⟩, ?_⟩
    simpa [Function.comp_def] using groupsOf_perm (passages.map fun p => (p.location, p.entry))

/-- A parameter whose name is put between quotes. -/
def headerParameter : Value :=
  record [("name", .str "X-Id"), ("in", .str "header"), ("type", .str "string")]

/-- The key of a header with a dash is its name between quotes, and read as the name. -/
theorem keys_of_requests_headerParameter : ∃ groups,
    parameterGroups (record []) [headerParameter] = .ok groups ∧
      groups.flatMap ParameterGroup.entries = [Text.ofString "'X-Id': options.XId"] ∧
      entryKey "'X-Id': options.XId" = some (Text.units "X-Id") := by
  have hgroups : parameterGroups (record []) [headerParameter] = .ok _ := rfl
  obtain ⟨-, hrequest⟩ := keys_of_requests_iff "X-Id"
  obtain ⟨passages, hpassages, hentries⟩ := hrequest _ _ _ hgroups
  obtain ⟨p, _, ⟨hp, hkey⟩, hnil, rfl⟩ := List.forall₂_cons_left_iff.mp hpassages
  obtain rfl := List.forall₂_nil_left_iff.mp hnil
  have hone : [Text.ofString "'X-Id': options.XId"].Perm [p.entry] := hentries
  have hentry : Text.ofString "'X-Id': options.XId" = p.entry :=
    List.singleton_perm_singleton.mp hone
  have htarget : headerParameter = p.target := Except.ok.inj hp.target
  have hget : headerParameter.get? "name" = some (.str "X-Id") := rfl
  have hwire : Text.ofString "X-Id" = p.wireName := by
    rw [htarget, hp.wireName] at hget
    exact (Value.str.inj (Option.some.inj hget)).symm
  rw [← hentry, ← hwire] at hkey
  exact ⟨_, hgroups, rfl, hkey.mpr ⟨by decide, by decide⟩⟩

/-- **Keys that are not the names of their parameters.** A digit in front makes no identifier, and a
quote closes the literal. -/
theorem exists_key_of_another_name :
    (∃ name, objectKey (propertyKey name) = none) ∧
      ∃ name other rest, objectKey (propertyKey name) = some (Text.units other, rest) ∧
        other ≠ name ∧ rest ≠ [] :=
  ⟨⟨"2fa", by decide +kernel⟩, "it's", "it", "s'", by decide +kernel, by decide, by decide⟩

end ClientScribe.Client
