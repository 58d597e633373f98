import ClientScribe.Proofs.Schema.Kind
import ClientScribe.Proofs.Script.LiteralUnion

/-!
# Listed Texts as a Type

A schema that lists texts has the union of their literals for its type. The union tells lists of
texts apart, but it does not always say what they are: the literals escape quotes and nothing else,
so the client's language reads the texts back exactly if none has a backslash or an end of a line
(`read_typeText_iff`).
-/

namespace ClientScribe.Schema

open Document (Value record nestingLimit)
open Script.LiteralUnion (isAltered unionText unionText_inj read_unionText_iff)

variable {schema other : Value} {vs ws : List Text} {qualified : Bool}

/-- A schema lists texts, one at least, as values of the type of texts or of no type. -/
structure ListsTexts (schema : Value) (vs : List Text) : Prop where
  type : typeField schema = .null ∨ typeField schema = .str "string"
  listed : listedField schema = .list (vs.map .str)
  ne_nil : vs ≠ []

/-- A schema that lists texts lists values. -/
theorem ListsTexts.listsValues (h : ListsTexts schema vs) : ListsValues schema := by
  refine ⟨by simp [h.listed, Value.isTrue, h.ne_nil], ?_⟩
  rcases h.type with htype | htype <;> rw [htype] <;> rfl

/-- The values that a schema lists are there. -/
theorem ListsTexts.get? (h : ListsTexts schema vs) :
    schema.get? "enum" = some (.list (vs.map .str)) := by
  have hlisted := h.listed
  unfold listedField at hlisted
  cases hget : schema.get? "enum" with
  | none =>
      rw [hget] at hlisted
      cases hlisted
  | some values =>
      rw [hget] at hlisted
      exact congrArg some hlisted

/-- Listed texts are written as their literals. -/
theorem ListsTexts.literals_eq (h : ListsTexts schema vs) :
    literals (.list (vs.map .str)) (typeField schema) = .ok (vs.map quotedLiteral) := by
  have hnumber : (typeField schema).isText "number" = false := by
    rcases h.type with htype | htype <;> rw [htype] <;> rfl
  have hmembers : (Value.list (vs.map .str)).members = .ok (vs.map .str) := rfl
  rw [literals, hmembers, Result.ok_bind, Value.mapM_text_str, Result.ok_bind, hnumber]
  rfl

/-- The type of a schema that lists texts is the union of their literals. -/
theorem ListsTexts.typeText_eq (h : ListsTexts schema vs) (qualified : Bool) :
    typeText schema qualified = .ok (.str (unionText vs)) := by
  obtain ⟨⟨es, hview⟩, -⟩ := exists_view_of_listsValues h.listsValues
  have hkind : kindOf schema true = .ok .enumeration := (Says.enumeration h.listsValues).kindOf_eq
  have hlisted : schema.demand "enum" = .ok (.list (vs.map .str)) :=
    Value.demand_eq_ok_iff.mpr h.get?
  have htype : schema.field "type" = .ok (typeField schema) := Value.field_of_view hview
  have hwithin : typeOf schema qualified = .ok (.union (vs.map quotedLiteral)) := by
    have hlimit : typeOf schema qualified = typeWithin qualified (979 + 1) schema := rfl
    rw [hlimit, typeWithin, hkind]
    simp only [Result.ok_bind, hlisted, htype, h.literals_eq, Result.pure_def]
  rw [typeText, hwithin]
  rfl

/-- **Which listed texts a type says.** The type of a schema that lists texts is a text. Read as a
union of literals it says exactly these texts if and only if none has a backslash or an end of a
line. No schema that lists other texts, or the same ones in another order, has this type. -/
theorem read_typeText_iff (h : ListsTexts schema vs) (qualified : Bool) :
    ∃ text, typeText schema qualified = .ok (.str text) ∧
      (Script.LiteralUnion.read text = some (vs.map Text.units) ↔
        ∀ v ∈ vs, ∀ c ∈ v, isAltered c = false) ∧
      ∀ other ws, ListsTexts other ws → ∀ qualified',
        typeText other qualified' = .ok (.str text) → ws = vs := by
  refine ⟨_, h.typeText_eq qualified, read_unionText_iff h.ne_nil, ?_⟩
  intro other ws hother qualified' hsame
  rw [hother.typeText_eq qualified'] at hsame
  exact unionText_inj hother.ne_nil h.ne_nil (Value.str.inj (Except.ok.inj hsame))

/-- The ways in which a name is quoted. -/
def quotations : Value :=
  record [("type", .str "string"), ("enum", .list [.str "it's", .str "'a'|'b'", .str "\u2028"])]

/-- Quotes, bars and separators of lines are read back. -/
theorem read_typeText_quotations : ∃ text, typeText quotations false = .ok (.str text) ∧
    ListsTexts quotations ["it's", "'a'|'b'", "\u2028"] ∧
      Script.LiteralUnion.read text =
        some ([Text.ofString "it's", "'a'|'b'", "\u2028"].map Text.units) := by
  have hlists : ListsTexts quotations ["it's", "'a'|'b'", "\u2028"] :=
    ⟨.inr rfl, rfl, List.cons_ne_nil _ _⟩
  obtain ⟨text, htext, hread, -⟩ := read_typeText_iff hlists false
  exact ⟨text, htext, hlists, hread.mpr (by decide)⟩

/-- Where files may be, one of them with a backslash at its end. -/
def folders : Value := record [("enum", .list [.str "C:\\", .str "D:"])]

/-- The backslash takes the closing quote of its literal into the text, and the rest is no union. -/
theorem exists_read_typeText_eq_none : ∃ text, typeText folders true = .ok (.str text) ∧
    ListsTexts folders ["C:\\", "D:"] ∧ Script.LiteralUnion.read text = none :=
  ⟨_, rfl, ⟨.inl rfl, rfl, List.cons_ne_nil _ _⟩, by decide⟩

end ClientScribe.Schema
