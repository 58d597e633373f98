import ClientScribe.Proofs.Client.ParameterBinding
import ClientScribe.Proofs.Identifier.Argument
import ClientScribe.Proofs.Script.Identifier

/-!
# Arguments as Identifiers

The name of an argument is never empty and never a reserved word, but names of parameters may have
any characters, and only separators are taken out. So an argument is an identifier exactly if the
name without its separators is one: it starts with a letter and goes on with parts of identifiers
(`isIdentifier_argument`). Then it can stand in a signature, and the field of the optional
parameters can be read by it. Otherwise neither is well formed.
-/

namespace ClientScribe.Client

open Document (Value record)
open Identifier (argumentName camelName escapeReserved reservedWords withoutSeparators)
open Script (access? binding? isIdentifier isIdentifierName isNamePart)

variable {name a : Text} {arg : Argument} {target : Value} {typed : Bool}

/-! ### Names -/

/-- Camel case neither makes identifiers nor breaks them. -/
theorem isIdentifierName_camelName (name : Text) :
    isIdentifierName (camelName name) = isIdentifierName (withoutSeparators name) := by
  rw [Script.isIdentifierName_eq, Script.isIdentifierName_eq, Identifier.head?_camelName,
    Identifier.all_camelName fun c d hd => Script.isNamePart_of_mem_upperChar hd]

/-- An underscore at the end does neither. -/
theorem isIdentifierName_escapeReserved (hne : name ≠ []) :
    isIdentifierName (escapeReserved name) = isIdentifierName name := by
  unfold escapeReserved
  split
  · obtain ⟨c, rest, rfl⟩ := List.exists_cons_of_ne_nil hne
    have hpart : CodePoint.satisfies isNamePart (.char '_') = true := by decide +kernel
    rw [List.cons_append, isIdentifierName, isIdentifierName, List.all_append]
    simp [Text.ofString, Text.ofChars, hpart]
  · rfl

/-- **When an argument is an identifier.** Its name is not empty and no reserved word, and it is an
identifier exactly if the name of its parameter is one apart from the separators. -/
theorem isIdentifier_argument (h : argumentName name = .ok a) :
    a ≠ [] ∧ a ∉ reservedWords ∧
      isIdentifier a = isIdentifierName (withoutSeparators name) := by
  obtain ⟨hwords, rfl⟩ := Identifier.argumentName_eq_ok_iff.mp h
  have hnormal := Identifier.isNormal_of_argumentName h
  refine ⟨hnormal.ne_nil, hnormal.not_reserved, ?_⟩
  rw [isIdentifier, isIdentifierName_escapeReserved (Identifier.camelName_ne_nil hwords),
    isIdentifierName_camelName]
  simp [hnormal.not_reserved]

/-! ### Places -/

/-- A required argument has its name in front, and nothing or the colon of its type behind it. -/
theorem exists_text_of_requiredArgument (h : requiredArgument typed target = .ok arg) :
    ∃ k : Text, arg.text = arg.name ++ k ∧ ∀ c ∈ k.head?, c = .char ':' := by
  have hgiven := optional_of_requiredArgument h
  unfold Argument.text
  cases arg.type with
  | none => exact ⟨[], by simp, by simp⟩
  | some type => exact ⟨": " ++ type, by simp [hgiven], by simp [Text.ofString, Text.ofChars]⟩

/-- **When an argument is well formed.** Its name is neither empty nor a reserved word. It is an
identifier exactly if the name of its parameter is one apart from the separators, and exactly then
it is read as a name in the signature, if it is required, and as the name of a field of the optional
parameters, if it is optional. -/
theorem argument_well_formed_iff (h : argumentName name = .ok a) :
    a ≠ [] ∧ a ∉ reservedWords ∧
      (isIdentifier a = true ↔ isIdentifierName (withoutSeparators name) = true) ∧
      (∀ typed target arg, target.get? "name" = some (.str name) →
        requiredArgument typed target = .ok arg →
        (binding? arg.text = some a ↔ isIdentifierName (withoutSeparators name) = true)) ∧
      ∀ document parameter p, IsPassage document parameter p → p.wireName = name →
        p.required = false →
        (access? p.value = some (Text.ofString "options", a) ↔
          isIdentifierName (withoutSeparators name) = true) := by
  obtain ⟨hne, hfree, hidentifier⟩ := isIdentifier_argument h
  refine ⟨hne, hfree, by rw [hidentifier], ?_, ?_⟩
  · intro typed target arg hname harg
    have hargument : parameterName target = .ok arg.name := parameterName_of_requiredArgument harg
    rw [parameterName, Value.demand_eq_ok_iff.mpr hname] at hargument
    obtain rfl : a = arg.name := Except.ok.inj (h.symm.trans hargument)
    obtain ⟨k, htext, hk⟩ := exists_text_of_requiredArgument harg
    rw [htext, Script.binding?_append_iff hk, hidentifier]
  · rintro document parameter p hp rfl hoptional
    obtain rfl : a = p.argument := Except.ok.inj (h.symm.trans hp.argument)
    have hvalue : p.value = Text.ofString "options" ++ .char '.' :: p.argument := by
      simp [Passage.value, hoptional, Text.ofString, Text.ofChars]
    rw [hvalue, Script.access?_append_iff (by decide +kernel), ← hidentifier, isIdentifier]
    simp [hfree]

/-- A parameter with a letter in its name that has two capitals. -/
def sizeParameter : Value :=
  record [("name", .str "max-ßize"), ("in", .str "query"), ("type", .str "integer")]

/-- Its capitals are letters as well. -/
theorem argument_well_formed_sizeParameter : ∃ arg p,
    requiredArgument true sizeParameter = .ok arg ∧ arg.text = "maxSSize: number" ∧
      binding? arg.text = some (Text.ofString "maxSSize") ∧
      IsPassage (record []) sizeParameter p ∧ p.value = "options.maxSSize" ∧
      access? p.value = some (Text.ofString "options", Text.ofString "maxSSize") := by
  have hname : argumentName "max-ßize" = .ok "maxSSize" := rfl
  have hgood : isIdentifierName (withoutSeparators "max-ßize") = true := by decide +kernel
  obtain ⟨-, -, -, hbinding, haccess⟩ := argument_well_formed_iff hname
  have harg : requiredArgument true sizeParameter = .ok _ := rfl
  have hp : IsPassage (record []) sizeParameter
      ⟨sizeParameter, false, "max-ßize", "maxSSize", "'max-ßize': options.maxSSize"⟩ :=
    ⟨rfl, rfl, rfl, hname, .plain rfl⟩
  exact ⟨_, _, harg, rfl, (hbinding _ _ _ rfl harg).mpr hgood, hp, rfl,
    (haccess _ _ _ hp rfl rfl).mpr hgood⟩

/-- **An argument that is no identifier.** Brackets stay in a name. -/
theorem exists_argument_not_identifier : ∃ name a, argumentName name = .ok a ∧
    isIdentifier a = false ∧ binding? a = none :=
  ⟨"filter[name]", "filter[name]", rfl, by decide +kernel, by decide +kernel⟩

end ClientScribe.Client
