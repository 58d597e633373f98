import ClientScribe.Proofs.Agreement
import ClientScribe.Proofs.Schema.DataType

/-!
# Names In And Outside Of The Namespace

The declared types stand in a namespace, and their names are used in it and outside of it. The type
of a schema is the same in both places but for the names, which have the namespace in front outside
of it: `typeText_eq_or` takes the text of the type apart into pieces, each of which is a name that
the schema refers to or a text without names, and gives both texts as these pieces in a row. A run
that ends early does so in both places, by the same error.

The proof follows the two runs side by side (`agree_typeWithin`), and then the two expressions.
-/

namespace ClientScribe.Schema

open Document (Value record misfit)
open Result (Agree)

variable {e : TypeExpr} {t : DataType}

/-! ### The two expressions -/

/-- The expression with its names in the namespace or outside of it. -/
def TypeExpr.moved (qualified : Bool) : TypeExpr → TypeExpr
  | word name => .word name
  | given type => .given type
  | union literals => .union literals
  | declared name _ => .declared name qualified
  | array element => .array (element.moved qualified)
  | group type => .group (type.moved qualified)
  | dictionary element => .dictionary (element.moved qualified)

/-- The declared type that a schema refers to is the same in both places. -/
theorem agree_declaredBy (schema : Value) (q q' : Bool) :
    Agree (fun e e' => e' = e.moved q') (declaredBy schema q) (declaredBy schema q') :=
  .bind_same _ fun _ => .bind_same _ fun _ => .ok rfl

/-- **The type of a schema is the same expression in both places**, but for the place. -/
theorem agree_typeWithin (q q' : Bool) (limit : Nat) (schema : Value) :
    Agree (fun e e' => e' = e.moved q') (typeWithin q limit schema)
      (typeWithin q' limit schema) := by
  induction limit generalizing schema with
  | zero => exact .error .misfit
  | succ limit ih =>
      rw [typeWithin, typeWithin]
      refine .bind_same _ fun kind => ?_
      cases kind with
      | enumeration =>
          exact .bind_same _ fun _ => .bind_same _ fun _ => .bind_same _ fun _ => .ok rfl
      | reference => exact agree_declaredBy schema q q'
      | wrapped => exact .bind_same _ ih
      | array =>
          refine .bind_same _ fun items => .bind_same _ fun elements => ?_
          split
          · exact (agree_declaredBy items q q').bind fun _ _ h => .ok (h ▸ rfl)
          · exact (ih items).bind fun _ _ h => .ok (h ▸ rfl)
          · exact .ok rfl
          · exact (ih items).bind fun _ _ h => .ok (h ▸ rfl)
      | dictionary =>
          refine .bind_same _ fun further => ?_
          split
          · exact (ih further).bind fun _ _ h => .ok (h ▸ rfl)
          · exact .ok rfl
      | primitive =>
          refine .bind_same _ fun type => ?_
          split
          · exact .ok rfl
          · exact .ok rfl
      | _ => exact .ok rfl

/-! ### Pieces of a text -/

/-- A piece of the text of a type. -/
inductive Piece where
  /-- A text that has no names in it. -/
  | own (s : Text)
  | reference (name : Text)

/-- The text of a piece in the namespace or outside of it. -/
def Piece.text (qualified : Bool) : Piece → Text
  | own s => s
  | reference name => qualifiedName name qualified

/-- The pieces in a row. -/
def written (qualified : Bool) (pieces : List Piece) : Text :=
  pieces.flatMap (Piece.text qualified)

/-- The names in a row of pieces. -/
def namesIn (pieces : List Piece) : List Text :=
  pieces.filterMap fun
    | .own _ => none
    | .reference name => some name

/-- The names that a schema of this type refers to. -/
def DataType.references : DataType → List Text
  | named name => [name]
  | array elements => elements.references
  | dictionary values => values.references
  | _ => []

/-- The texts that a schema of this type gives without a reference: the literals of what it lists,
and the type that it says. -/
def DataType.ownTexts : DataType → List Text
  | oneOf texts numbers => [Text.intercalate "|" (literalTexts texts numbers)]
  | array elements => elements.ownTexts
  | dictionary values => values.ownTexts
  | given type => type.text.toOption.toList
  | _ => []

/-- The texts of the language itself. -/
def languageTexts : List Text :=
  ["any", "number", "Date", "[]", "(", ")", "\x7b[key: string]: ", "\x7d"]

/-- The pieces spell a type of data: they have the names that it refers to, in this order, and the
texts between them come from the language or from what the type gives without a reference. -/
structure Spells (pieces : List Piece) (t : DataType) : Prop where
  names : namesIn pieces = t.references
  own : ∀ s, .own s ∈ pieces → s ∈ languageTexts ∨ s ∈ t.ownTexts

/-- The outcome is the same in both places, but for the namespace in front of names. A type that the
schema gives on its own and that is no text stays what it is. -/
inductive SameButForNames (t : DataType) (outcome : Bool → Result Value) : Prop
  | text {pieces : List Piece} (hspells : Spells pieces t)
      (h : ∀ q, outcome q = .ok (.str (written q pieces)))
  | value {type : Value} (ht : t = .given type) (hvalue : ∀ s, type ≠ .str s)
      (h : ∀ q, outcome q = .ok type)

variable {pieces : List Piece} {outcome : Bool → Result Value} {s front back : Text}

/-- A text of the language behind pieces leaves the names as they are. -/
theorem Spells.behind (h : Spells pieces t) (hback : back ∈ languageTexts) :
    Spells (pieces ++ [.own back]) t where
  names := by
    rw [← h.names]
    simp [namesIn]
  own := by
    intro s hs
    rcases List.mem_append.mp hs with hs | hs
    · exact h.own s hs
    · obtain rfl := Piece.own.inj (List.mem_singleton.mp hs)
      exact .inl hback

/-- So does one in front of them. -/
theorem Spells.inFront (h : Spells pieces t) (hfront : front ∈ languageTexts) :
    Spells (.own front :: pieces) t where
  names := h.names
  own := by
    intro s hs
    rcases List.mem_cons.mp hs with hs | hs
    · obtain rfl := Piece.own.inj hs
      exact .inl hfront
    · exact h.own s hs

/-- Texts of the language around pieces make them spell a type with the same names and texts. -/
theorem Spells.between (h : Spells pieces t) {t' : DataType}
    (hreferences : t'.references = t.references) (hown : t'.ownTexts = t.ownTexts)
    (hfront : front ∈ languageTexts) (hback : back ∈ languageTexts) :
    Spells (.own front :: pieces ++ [.own back]) t' := by
  obtain ⟨hnames, howns⟩ := (h.inFront hfront).behind hback
  exact ⟨hnames.trans hreferences.symm, hown ▸ howns⟩

/-- A text without names spells a type without references. -/
theorem spells_own (hreferences : t.references = []) (hs : s ∈ languageTexts ∨ s ∈ t.ownTexts) :
    Spells [.own s] t where
  names := hreferences.symm
  own := by
    intro s' hs'
    obtain rfl := Piece.own.inj (List.mem_singleton.mp hs')
    exact hs

/-- A piece without a name is written as its text, with namespaces or without. -/
@[simp] theorem written_own (qualified : Bool) (s : Text) : written qualified [.own s] = s := by
  simp [written, Piece.text]

/-- Text behind pieces is written behind them. -/
theorem written_behind (qualified : Bool) (pieces : List Piece) (back : Text) :
    written qualified (pieces ++ [.own back]) = written qualified pieces ++ back := by
  simp [written, Piece.text]

/-- Text in front of pieces is written in front of them. -/
theorem written_inFront (qualified : Bool) (front : Text) (pieces : List Piece) :
    written qualified (.own front :: pieces) = front ++ written qualified pieces := rfl

/-- The same in both places without names in it. -/
theorem sameButForNames_own (hreferences : t.references = [])
    (hs : s ∈ languageTexts ∨ s ∈ t.ownTexts) (h : ∀ q, outcome q = .ok (.str s)) :
    SameButForNames t outcome :=
  .text (spells_own hreferences hs) fun q => by rw [h q, written_own]

/-- An array is the same in both places if its elements are. -/
theorem SameButForNames.array (h : SameButForNames t outcome) :
    (∃ err, ∀ q, (do return .str ((← (← outcome q).asText) ++ "[]") : Result Value) = .error err) ∨
      SameButForNames (.array t) fun q => do return .str ((← (← outcome q).asText) ++ "[]") := by
  cases h with
  | @text pieces hspells h =>
      have hmarks : ("[]" : Text) ∈ languageTexts := by decide
      have hspells : Spells (pieces ++ [.own "[]"]) (.array t) := by
        obtain ⟨hnames, hown⟩ := hspells.behind hmarks
        exact ⟨hnames, hown⟩
      refine .inr (.text hspells fun q => ?_)
      rw [h q, written_behind]
      rfl
  | @value type _ hvalue h =>
      -- brackets can only stand behind a text
      refine .inl ⟨.misfit, fun q => ?_⟩
      rw [h q]
      cases type with
      | str s => exact absurd rfl (hvalue s)
      | _ => rfl

/-- What stands between texts of the language is the same in both places if it is on its own. -/
theorem SameButForNames.between (h : SameButForNames t outcome) {t' : DataType}
    (hreferences : t'.references = t.references) (hown : t'.ownTexts = t.ownTexts)
    (hfront : front ∈ languageTexts) (hback : back ∈ languageTexts) :
    (∃ err, ∀ q, (do return .str (front ++ (← (← outcome q).text) ++ back) : Result Value) =
        .error err) ∨
      SameButForNames t' fun q => do return .str (front ++ (← (← outcome q).text) ++ back) := by
  cases h with
  | @text pieces hspells h =>
      refine .inr (.text (hspells.between hreferences hown hfront hback) fun q => ?_)
      rw [h q, written_behind, written_inFront]
      rfl
  | @value type ht _ h =>
      -- a type that is no text is written out as one here
      subst ht
      cases htext : type.text with
      | error err =>
          refine .inl ⟨err, fun q => ?_⟩
          rw [h q, Result.ok_bind, htext]
          rfl
      | ok s =>
          have hs : s ∈ (DataType.given type).ownTexts := by
            simp [DataType.ownTexts, htext, Except.toOption]
          have hspells : Spells [.own s] (.given type) := spells_own rfl (.inr hs)
          refine .inr (.text (hspells.between hreferences hown hfront hback) fun q => ?_)
          rw [h q, Result.ok_bind, htext, written_behind, written_inFront, written_own]
          rfl

/-- An expression has the same text in both places, but for the namespace, or none in either. -/
theorem value_moved_eq_or {q : Bool} (h : Expresses q e t) :
    (∃ err, ∀ q', (e.moved q').value = .error err) ∨
      SameButForNames t fun q' => (e.moved q').value := by
  induction h with
  | any => exact .inr (sameButForNames_own rfl (.inl (by decide)) fun _ => rfl)
  | oneOf texts numbers =>
      exact .inr (sameButForNames_own rfl (.inr List.mem_cons_self) fun _ => rfl)
  | named name =>
      have hspells : Spells [.reference name] (.named name) := by
        refine ⟨rfl, fun s hs => ?_⟩
        cases List.mem_singleton.mp hs
      refine .inr (.text hspells fun q' => ?_)
      simp [TypeExpr.moved, TypeExpr.value, written, Piece.text]
  | array _ ih =>
      rcases ih with ⟨err, herr⟩ | hsame
      · exact .inl ⟨err, fun q' => by rw [TypeExpr.moved, TypeExpr.value, herr q']; rfl⟩
      · exact hsame.array
  | group _ ih =>
      rcases ih with ⟨err, herr⟩ | hsame
      · exact .inl ⟨err, fun q' => by rw [TypeExpr.moved, TypeExpr.value, herr q']; rfl⟩
      · exact hsame.between rfl rfl (by decide) (by decide)
  | dictionary _ ih =>
      rcases ih with ⟨err, herr⟩ | hsame
      · exact .inl ⟨err, fun q' => by rw [TypeExpr.moved, TypeExpr.value, herr q']; rfl⟩
      · exact hsame.between rfl rfl (by decide) (by decide)
  | number => exact .inr (sameButForNames_own rfl (.inl (by decide)) fun _ => rfl)
  | date => exact .inr (sameButForNames_own rfl (.inl (by decide)) fun _ => rfl)
  | given type =>
      cases type with
      | str s =>
          exact .inr (sameButForNames_own rfl (.inr List.mem_cons_self) fun _ => rfl)
      | _ => exact .inr (.value rfl (fun _ h => nomatch h) fun _ => rfl)

/-- **The text of a schema's type is the same in the namespace and outside of it, but for the
namespace in front of the names.** The names are those that the schema refers to. A run that ends
early ends by the same error in both places. -/
theorem typeText_eq_or (schema : Value) :
    (∃ err, ∀ q, typeText schema q = .error err) ∨
      ∃ t, (∀ t', Describes schema t' ↔ t' = t) ∧ SameButForNames t (typeText schema) := by
  have hagree (q : Bool) : Agree (fun e e' => e' = e.moved q) (typeOf schema true)
      (typeOf schema q) := agree_typeWithin true q _ schema
  cases he : typeOf schema true with
  | error err =>
      refine .inl ⟨err, fun q => ?_⟩
      rw [typeText, (hagree q).eq_error he, Result.error_bind]
  | ok e =>
      obtain ⟨t, ht, hexpresses, -⟩ := exists_of_typeWithin he
      have htext : typeText schema = fun q => (e.moved q).value := by
        funext q
        obtain ⟨e', he', hmoved⟩ := (hagree q).exists_of_eq_ok he
        rw [typeText, he', Result.ok_bind, hmoved]
      rw [htext]
      rcases value_moved_eq_or hexpresses with herr | hsame
      · exact .inl herr
      · exact .inr ⟨t, fun t' => ⟨fun ht' => ht'.unique ht, fun h => h ▸ ht⟩, hsame⟩

/-- A schema that may be a text or null. -/
def nullable : Value := record [("type", .list [.str "string", .str "null"])]

/-- **The recursion does not stop at listed values beside a reference**, and its outcome is not
always a text: the elements of an array list their values, but what is written is the name that they
refer to, and a type that is no text is handed on. -/
theorem exists_beyond_recursion :
    (Says listedReferences .array ∧ listedReferences.get? "items" = some listedReference ∧
      Says listedReference .enumeration ∧
      typeText listedReferences true = .ok (.str "api.Pet[]") ∧
      typeText listedReferences false = .ok (.str "Pet[]")) ∧
    ∃ type, typeText nullable true = .ok type ∧ typeText nullable false = .ok type ∧
      ∀ s, type ≠ .str s :=
  ⟨⟨says_listedReferences, rfl, says_listedReference, rfl, rfl⟩, _, rfl, rfl, fun _ h => nomatch h⟩

end ClientScribe.Schema
