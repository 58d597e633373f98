import ClientScribe.Proofs.Client.InterfaceMembers

/-!
# What an Interface Keeps of Its Definition

A definition that combines a reference with one other schema is read as that schema, extending what
is referred to. `interface_keeps` says what an interface keeps of the part of its definition that is
read: all properties, the required names, and the description. That part is the definition itself
unless it combines schemas. If it does, it is the second one of them, and the properties and the
required names beside the combination have no effect.

The elements of an inline array are registered as a definition with the description of the array in
the place of their own; what they say about members is kept as well.
-/

namespace ClientScribe

namespace Text

variable {s : Text}

/-- Blanks alone are cut off altogether. -/
theorem strip_eq_nil_iff : strip s = [] ↔ ∀ c ∈ s, c.satisfies isBlank = true := by
  have hend (t : Text) : stripEnd t = [] ↔ ∀ c ∈ t, c.satisfies isBlank = true := by
    simp [stripEnd, List.dropWhile_eq_nil_iff]
  rw [strip, hend]
  refine ⟨fun h c hc => ?_, fun h c hc => h c (List.dropWhile_sublist _ |>.subset hc)⟩
  have hsplit : s.takeWhile (·.satisfies isBlank) ++ s.dropWhile (·.satisfies isBlank) = s :=
    List.takeWhile_append_dropWhile
  rw [← hsplit] at hc
  obtain hc | hc := List.mem_append.mp hc
  · exact List.all_eq_true.mp List.all_takeWhile c hc
  · exact h c hc

end Text

namespace Client

open Document (Value Entries record)
open Schema (isInlineObject)

variable {name definition part schema items : Value} {ms : List Member} {d : Declaration}
  {description : Text}

/-! ### Members and descriptions -/

/-- All that a schema says about members is kept in a row of members. -/
structure KeepsMembers (schema : Value) (ms : List Member) : Prop where
  properties : ∀ e ∈ properties schema, ∃ m ∈ ms, m.name = e.1
  required : ∀ listed names, schema.get? "required" = some listed → listed.members = .ok names →
    ∀ m ∈ ms, ∀ name ∈ names, m.name.same name = true → m.optional = false

/-- The description of a schema is kept, laid out for a comment. -/
def KeepsDescription (schema : Value) (description : Text) : Prop :=
  ∀ s, schema.get? "description" = some (.str s) →
    description = continueLines (commentLine ++ indentUnit) (Text.strip s) ∧
      (description = [] ↔ ∀ c ∈ s, c.satisfies Text.isBlank = true)

/-- The required names are those that are listed, if any are. -/
theorem eq_of_requiredNames {required names : List Value} {listed : Value}
    (h : requiredNames part = .ok required) (hlisted : part.get? "required" = some listed)
    (hnames : listed.members = .ok names) : required = names := by
  simp only [requiredNames, Result.bind_eq_ok_iff] at h
  obtain ⟨given, hgiven, required', hmembers, h⟩ := h
  obtain ⟨-, rfl⟩ := Value.field_eq_ok_iff.mp hgiven
  obtain rfl : required' = required := by
    split at h
    · exact Except.ok.inj h
    · cases h
  rw [hlisted, Option.getD_some, Value.orElse] at hmembers
  split at hmembers
  · exact Except.ok.inj (hmembers.symm.trans hnames)
  · next hfalse =>
    -- nothing is listed in a collection that does not count as given
    obtain rfl := Except.ok.inj hmembers
    cases listed <;> simp_all [Value.isTrue, Value.members, Value.view, Document.misfit]

/-- The members of an interface keep what its schema says about members. -/
theorem keepsMembers_of_members (h : members part = .ok ms) : KeepsMembers part ms := by
  obtain ⟨required, hrequired, -, hrow⟩ := members_eq_ok_iff.mp h
  refine ⟨fun e he => ?_, fun listed names hlisted hnames m hm name hname hsame => ?_⟩
  · have hmem : e ∈ requiredFirst required (properties part) :=
      (List.filter_append_perm _ _).mem_iff.mpr he
    obtain ⟨m, hm, hmember⟩ := Result.exists_of_mem_of_mapM hrow hmem
    exact ⟨m, hm, (member_eq_ok hmember).1⟩
  · obtain rfl := eq_of_requiredNames hrequired hlisted hnames
    obtain ⟨e, -, hmember⟩ := Result.exists_of_mem_mapM hrow hm
    obtain ⟨hkey, hoptional, -, -⟩ := member_eq_ok hmember
    rw [hoptional, Bool.not_eq_false', List.any_eq_true]
    exact ⟨name, hname, hkey ▸ hsame⟩

/-- Only the empty text is laid out as nothing. -/
theorem continueLines_eq_nil_iff {start s : Text} : continueLines start s = [] ↔ s = [] := by
  cases s with
  | nil => simp [continueLines]
  | cons c s =>
      simp only [continueLines, List.flatMap_cons, List.append_eq_nil_iff, reduceCtorEq, iff_false]
      split <;> simp

/-- A description that is laid out for a comment is kept. -/
theorem keepsDescription_of_describe {given : Value}
    (hgiven : given = (part.get? "description").getD .null)
    (h : describe given commentLine = .ok description) : KeepsDescription part description := by
  intro s hs
  rw [hs, Option.getD_some] at hgiven
  subst hgiven
  obtain rfl := Except.ok.inj ((describe_str s commentLine).symm.trans h)
  exact ⟨rfl, by rw [continueLines_eq_nil_iff, Text.strip_eq_nil_iff]⟩

/-! ### Interfaces -/

/-- What an interface keeps of the part of its definition that says its shape. -/
theorem keeps_of_declaration (h : (declaration name definition).result = .ok (some d))
    (hshape : d.shape = .interface ms) : ∃ part, shapePart? definition = some part ∧
      KeepsMembers part ms ∧ KeepsDescription part d.description := by
  obtain ⟨part, given, hbody, hgiven, hdescribe, hshapeOf⟩ := parentAndBody_of_result_declaration h
  obtain ⟨-, hmembers⟩ := members_of_shapeOf hshapeOf hshape
  exact ⟨part, shapePart?_of_parentAndBody hbody, keepsMembers_of_members hmembers,
    keepsDescription_of_describe (Value.field_eq_ok_iff.mp hgiven).2 hdescribe⟩

/-- Beside what a definition combines, nothing is read. -/
theorem parentAndBody_of_allOf {other combined : Value}
    (hcombined : definition.get? "allOf" = some combined)
    (hother : other.get? "allOf" = some combined) :
    parentAndBody name other = parentAndBody name definition := by
  have hread (v : Value) (hv : v.get? "allOf" = some combined) : parentAndBody name v =
      Schema.inheritanceOf name combined >>= fun i => .ok (some i.parent, i.extension) := by
    obtain ⟨es, hview⟩ := Value.exists_view_of_get? hv
    simp [parentAndBody, Value.has_of_view hview, hv, Value.demand_eq_ok_iff.mpr hv]
  rw [hread definition hcombined, hread other hother]

/-- Schemas with the same properties and the same required names are kept alike. -/
theorem KeepsMembers.congr {other : Value} (h : KeepsMembers schema ms)
    (hproperties : schema.get? "properties" = other.get? "properties")
    (hrequired : schema.get? "required" = other.get? "required") : KeepsMembers other ms := by
  have heq : Client.properties other = Client.properties schema := by
    rw [Client.properties, ← hproperties, Client.properties]
  exact ⟨heq ▸ h.properties, hrequired ▸ h.required⟩

/-- The elements of an inline array that combine no schemas keep what they say about members, and
the description of the array or else their own. -/
theorem keeps_of_elementsDefinition (helements : inlineElements? schema = some items)
    (hplain : items.get? "allOf" = none)
    (h : (declaration name (elementsDefinition schema items)).result = .ok (some d))
    (hshape : d.shape = .interface ms) : KeepsMembers items ms ∧
      KeepsDescription
        (if ((schema.get? "description").getD .null).isTrue then schema else items)
        d.description := by
  obtain ⟨-, -, -, hinline⟩ := inlineElements?_eq_some_iff.mp helements
  obtain ⟨⟨fields, hv⟩, -⟩ := isInlineObject_iff.mp hinline
  have hfield {k : Text} (htype : k ≠ "type") (hdescription : k ≠ "description") :
      (elementsDefinition schema items).get? k = items.get? k :=
    get?_elementsDefinition ⟨fields, hv⟩ htype hdescription
  obtain ⟨part, hpart, hmembers, hdescription⟩ := keeps_of_declaration h hshape
  obtain rfl : elementsDefinition schema items = part := by
    simpa [shapePart?, hfield, hplain] using hpart
  refine ⟨hmembers.congr (hfield (by decide) (by decide)) (hfield (by decide) (by decide)), ?_⟩
  intro s hs
  refine hdescription s ?_
  rw [get?_description_elementsDefinition hv, ← hs]
  split <;> rfl

/-- **What an interface keeps of its definition.** All properties of the part that is read are
members, no member is optional that it requires, and its description is that of the interface. The
part is the definition itself if it combines no schemas, and the second one of them if it does; then
nothing beside them has an effect on the members. The elements of an inline array that combine no
schemas keep their properties and required names, and the description of the array or else their
own. -/
theorem interface_keeps (h : (declaration name definition).result = .ok (some d))
    (hshape : d.shape = .interface ms) :
    (∃ part, shapePart? definition = some part ∧ KeepsMembers part ms ∧
      KeepsDescription part d.description ∧
      (definition.get? "allOf" = none → part = definition) ∧
      ∀ combined, definition.get? "allOf" = some combined → combined.member 1 = .ok part ∧
        ∀ other, other.get? "allOf" = some combined → ∃ d',
          (declaration name other).result = .ok (some d') ∧ d'.shape = d.shape) ∧
    ∀ schema items, inlineElements? schema = some items → items.get? "allOf" = none →
      definition = elementsDefinition schema items → KeepsMembers items ms ∧
        KeepsDescription
          (if ((schema.get? "description").getD .null).isTrue then schema else items)
          d.description := by
  refine ⟨?_, fun schema items helements hplain heq => ?_⟩
  · obtain ⟨part, hpart, hmembers, hdescription⟩ := keeps_of_declaration h hshape
    refine ⟨part, hpart, hmembers, hdescription, fun hnone => ?_, fun combined hcombined => ?_⟩
    · simpa [shapePart?, hnone] using hpart.symm
    · refine ⟨?_, fun other hother => ⟨d, ?_, rfl⟩⟩
      · cases hmember : combined.member 1 with
        | error e => simp [shapePart?, hcombined, hmember, Except.toOption] at hpart
        | ok extension => simpa [shapePart?, hcombined, hmember, Except.toOption] using hpart
      · rw [declaration, parentAndBody_of_allOf hcombined hother, ← declaration]
        exact h
  · subst heq
    exact keeps_of_elementsDefinition helements hplain h hshape

/-- A pet as a search finds it. -/
def foundPet : Value :=
  record [("type", .str "object"), ("required", .list [.str "id"]),
    ("properties", record [("name", record [("type", .str "string")]),
      ("id", record [("type", .str "integer")])])]

/-- All that a search finds. -/
def foundPets : Value :=
  record [("type", .str "array"), ("description", .str "Pets by name."), ("items", foundPet)]

/-- What is found keeps its members and takes the description of the list. -/
theorem interface_keeps_foundPets : ∃ d ms,
    (declaration (.str "find_response") (elementsDefinition foundPets foundPet)).result =
      .ok (some d) ∧ d.shape = .interface ms ∧ KeepsMembers foundPet ms ∧
      d.description = "Pets by name." := by
  have hd : (declaration (.str "find_response") (elementsDefinition foundPets foundPet)).result =
    .ok (some _) := rfl
  obtain ⟨-, hkeeps⟩ := interface_keeps hd rfl
  obtain ⟨hmembers, hdescription⟩ := hkeeps foundPets foundPet rfl rfl rfl
  exact ⟨_, _, hd, rfl, hmembers, (hdescription "Pets by name." rfl).1⟩

/-- A dog is a pet with a size, and more is said of it beside that. -/
def describedDog : Value :=
  record [("description", .str "A dog"), ("required", .list [.str "size"]),
    ("properties", record [("name", record [("type", .str "string")])]),
    ("allOf", .list [record [("$ref", .str "#/components/schemas/Pet")],
      record [("type", .str "object"),
        ("properties", record [("size", record [("type", .str "integer")])])]])]

/-- **What is said beside a combination is lost.** A definition lists a property, requires another
one and has a description, all of it beside the schemas that it combines; in its interface the
property is missing, the other one is optional, and the description is empty. -/
theorem exists_interface_drops : ∃ d ms,
    (declaration (.str "Dog") describedDog).result = .ok (some d) ∧ d.shape = .interface ms ∧
      (properties describedDog).map Prod.fst = [.str "name"] ∧
      describedDog.get? "required" = some (.list [.str "size"]) ∧
      describedDog.get? "description" = some (.str "A dog") ∧
      ms.map (fun m => (m.name, m.optional)) = [(.str "size", true)] ∧ d.description = [] :=
  ⟨_, _, rfl, rfl, rfl, rfl, rfl, rfl, rfl⟩

end Client

end ClientScribe
