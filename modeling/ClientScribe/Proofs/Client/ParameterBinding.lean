import ClientScribe.Proofs.Client.Arguments
import ClientScribe.Proofs.Client.ParameterGroups
import ClientScribe.Proofs.Document.Field
import ClientScribe.Proofs.Template.OperationText

/-!
# Where a Parameter Goes

A parameter comes into the function of its operation as an argument of its own or as a field of the
optional parameters, and leaves it as an entry of the request. What it refers to and whether a call
must give it is asked twice, once for the way in and once for the way out. A `Passage` is both ways
of one parameter, and `operationView_binds` says that the parts of an operation are made of the
passages of its parameters, one for each and in order: whatever an entry reads has been bound.
-/

namespace ClientScribe.Client

open Api (Operation)
open Document (Value record)
open Identifier (argumentName propertyKey)

/-- The way of a parameter through the function of its operation. -/
structure Passage where
  /-- The parameter, or what it refers to. -/
  target : Value
  /-- Whether a call must give it. -/
  required : Bool
  /-- The name under which the request carries it. -/
  wireName : Text
  /-- The name under which it comes in. -/
  argument : Text
  /-- The entry of the request. -/
  entry : Text

namespace Passage

/-- The location of a parameter: the query, if it names none. -/
def location (p : Passage) : Value := (p.target.get? "in").getD (.str "query")

/-- The key of a parameter in the request. -/
def key (p : Passage) : Text := propertyKey p.wireName

/-- What the function reads the parameter by: its argument, or a field of the optional
parameters. -/
def value (p : Passage) : Text :=
  if p.required then p.argument else "options." ++ p.argument

/-- The ways in which an entry can pass a value on. -/
inductive Passes (p : Passage) : Prop where
  /-- By a key that is the name of the argument. -/
  | shorthand (required : p.required = true) (wire : p.wireName = p.argument)
      (key : p.argument = p.key) (entry : p.entry = p.key)
  /-- As it is. -/
  | plain (entry : p.entry = p.key ++ ": " ++ p.value)
  /-- As an array. -/
  | array (format : Text) (entry : p.entry =
      p.key ++ ": gateway.formatArrayParam(" ++ p.value ++ ", '" ++ format ++ "', '" ++
        p.wireName ++ "')")
  /-- As a date. -/
  | date (format : Text) (entry : p.entry =
      p.key ++ ": gateway.formatDate(" ++ p.value ++ ", '" ++ format ++ "')")

end Passage

/-- The passage of a parameter. -/
structure IsPassage (document parameter : Value) (p : Passage) : Prop where
  target : Api.resolved document parameter = .ok p.target
  required : Api.isRequired document parameter = .ok p.required
  wireName : p.target.get? "name" = some (.str p.wireName)
  argument : argumentName p.wireName = .ok p.argument
  passes : p.Passes

section Parameter

variable {document parameter target : Value} {required : Bool} {p : Passage}

/-- An entry passes the value of its parameter on. -/
theorem passes_of_parameterEntry {entry : Text} (h : parameterEntry target required = .ok entry) :
    ∃ wireName argument, target.get? "name" = some (.str wireName) ∧
      argumentName wireName = .ok argument ∧
      Passage.Passes ⟨target, required, wireName, argument, entry⟩ := by
  simp only [parameterEntry, Result.bind_eq_ok_iff, Value.demand_eq_ok_iff,
    Value.asText_eq_ok_iff] at h
  obtain ⟨_, hname, wireName, rfl, argument, hargument, type, -, h⟩ := h
  refine ⟨wireName, argument, hname, hargument, ?_⟩
  split at h
  · obtain ⟨format, -, h⟩ := Result.bind_eq_ok_iff.mp h
    split at h
    · obtain ⟨text, -, h⟩ := Result.bind_eq_ok_iff.mp h
      exact .array text (Except.ok.inj h).symm
    · cases h
  · obtain ⟨format, -, h⟩ := Result.bind_eq_ok_iff.mp h
    split at h
    · obtain ⟨text, -, h⟩ := Result.bind_eq_ok_iff.mp h
      exact .date text (Except.ok.inj h).symm
    · split at h
      · next hshort =>
        simp only [Bool.and_eq_true, beq_iff_eq] at hshort
        exact .shorthand hshort.1.1 hshort.1.2 hshort.2 (Except.ok.inj h).symm
      · exact .plain (Except.ok.inj h).symm

/-- A parameter with a place in the request has a passage. -/
theorem exists_isPassage_of_located {e : Value × Text} (h : located document parameter = .ok e) :
    ∃ p, IsPassage document parameter p ∧ e = (p.location, p.entry) := by
  simp only [located, Result.bind_eq_ok_iff, Value.fieldOr_eq_ok_iff] at h
  obtain ⟨target, htarget, required, hrequired, entry, hentry, location, ⟨-, rfl⟩, h⟩ := h
  obtain ⟨wireName, argument, hname, hargument, hpasses⟩ := passes_of_parameterEntry hentry
  refine ⟨⟨target, required, wireName, argument, entry⟩,
    ⟨htarget, hrequired, hname, hargument, hpasses⟩, ?_⟩
  split at h
  · exact (Except.ok.inj h).symm
  · cases h

/-- On the way in a parameter is what it is on the way out. -/
theorem classified_of_isPassage {e : Value × Bool} (hp : IsPassage document parameter p)
    (h : Api.classified document parameter = .ok e) : e = (p.target, p.required) := by
  simp only [Api.classified, Result.bind_eq_ok_iff, hp.target, hp.required, Except.ok.injEq,
    exists_eq_left'] at h
  obtain ⟨named, -, h⟩ := h
  split at h
  · simpa using h.symm
  · simp [Result.bind_eq_ok_iff] at h

/-- The name under which a parameter comes in is that of its passage. -/
theorem parameterName_of_isPassage (hp : IsPassage document parameter p) :
    parameterName p.target = .ok p.argument := by
  simp [parameterName, Value.demand_eq_ok_iff.mpr hp.wireName, Value.asText, hp.argument]

end Parameter

section Parameters

variable {document : Value} {parameters : List Value} {passages : List Passage}

/-- Parameters with places in the request have passages, one for each and in order. -/
theorem exists_passages_of_located {all : List (Value × Text)}
    (h : parameters.mapM (located document) = .ok all) :
    ∃ passages, List.Forall₂ (IsPassage document) parameters passages ∧
      all = passages.map fun p => (p.location, p.entry) := by
  induction Result.mapM_eq_ok_iff.mp h with
  | nil => exact ⟨[], .nil, rfl⟩
  | @cons parameter e parameters all he hall ih =>
      obtain ⟨p, hp, rfl⟩ := exists_isPassage_of_located he
      obtain ⟨passages, hpassages, rfl⟩ := ih (Result.mapM_eq_ok_iff.mpr hall)
      exact ⟨p :: passages, .cons hp hpassages, rfl⟩

/-- The groups of parameters are the entries of their passages by location. -/
theorem exists_passages_of_parameterGroups {groups : List ParameterGroup}
    (h : parameterGroups document parameters = .ok groups) :
    ∃ passages, List.Forall₂ (IsPassage document) parameters passages ∧
      groups = groupsOf (passages.map fun p => (p.location, p.entry)) := by
  simp only [parameterGroups, Result.bind_eq_ok_iff, Result.pure_def, Except.ok.injEq] at h
  obtain ⟨all, hall, rfl⟩ := h
  obtain ⟨passages, hpassages, rfl⟩ := exists_passages_of_located hall
  exact ⟨passages, hpassages, foldl_addEntry_eq_groupsOf _⟩

/-- What parameters are on the way in is what they are on the way out. -/
theorem classified_of_passages {all : List (Value × Bool)}
    (hpassages : List.Forall₂ (IsPassage document) parameters passages)
    (h : parameters.mapM (Api.classified document) = .ok all) :
    all = passages.map fun p => (p.target, p.required) := by
  have hall := Result.mapM_eq_ok_iff.mp h
  clear h
  induction hpassages generalizing all with
  | nil =>
      cases hall
      rfl
  | cons hp _ ih =>
      obtain _ | ⟨he, hes⟩ := hall
      rw [classified_of_isPassage hp he, ih hes]
      rfl

/-- Parameters are split by whether a call must give them, each part in order. -/
theorem partitioned_of_passages {split : Api.Parameters}
    (hpassages : List.Forall₂ (IsPassage document) parameters passages)
    (h : Api.partitioned document parameters = .ok split) :
    split.required = (passages.filter (·.required)).map Passage.target ∧
      split.optional = (passages.filter (!·.required)).map Passage.target := by
  simp only [Api.partitioned, Result.bind_eq_ok_iff, Result.pure_def, Except.ok.injEq] at h
  obtain ⟨all, hall, rfl⟩ := h
  obtain rfl := classified_of_passages hpassages hall
  simp [List.filter_map, Function.comp_def]

/-- Every passage is that of a parameter. -/
theorem parameterName_of_mem {p : Passage}
    (hpassages : List.Forall₂ (IsPassage document) parameters passages) (hp : p ∈ passages) :
    parameterName p.target = .ok p.argument := by
  induction hpassages with
  | nil => cases hp
  | cons hfirst _ ih =>
      obtain rfl | hp := List.mem_cons.mp hp
      · exact parameterName_of_isPassage hfirst
      · exact ih hp

/-- Whatever is made of some parameters under their names has the names of their passages. -/
theorem map_name_of_mapM {α : Type} {make : Value → Result α} {name : α → Text} {all : List α}
    {chosen : List Passage}
    (hmake : ∀ target a, make target = .ok a → parameterName target = .ok (name a))
    (hpassages : List.Forall₂ (IsPassage document) parameters passages)
    (hchosen : chosen ⊆ passages) (h : (chosen.map Passage.target).mapM make = .ok all) :
    all.map name = chosen.map Passage.argument := by
  have hall := List.forall₂_map_left_iff.mp (Result.mapM_eq_ok_iff.mp h)
  refine Result.map_eq_map_of_mapM (Result.mapM_eq_ok_iff.mpr hall) fun p hp a ha => ?_
  have hname := parameterName_of_mem hpassages (hchosen hp)
  exact Except.ok.inj ((hmake p.target a ha).symm.trans hname)

/-- Whether a call must give a parameter is what its passage says. -/
theorem exists_mem_of_isRequired {parameter : Value} {required : Bool}
    (hpassages : List.Forall₂ (IsPassage document) parameters passages)
    (hmem : parameter ∈ parameters) (h : Api.isRequired document parameter = .ok required) :
    ∃ p ∈ passages, p.required = required := by
  induction hpassages with
  | nil => cases hmem
  | @cons first p _ _ hp _ ih =>
      obtain rfl | hmem := List.mem_cons.mp hmem
      · exact ⟨p, List.mem_cons_self, Except.ok.inj (hp.required.symm.trans h)⟩
      · obtain ⟨q, hq, hrequired⟩ := ih hmem
        exact ⟨q, List.mem_cons_of_mem _ hq, hrequired⟩

end Parameters

/-! ### The parts of an operation -/

section Operation

variable {document : Value} {op : Operation} {options : Options} {view : OperationView}
  {passages : List Passage}

/-- An optional property has the name of its parameter. -/
theorem parameterName_of_optionProperty {target : Value} {property : OptionProperty}
    (h : optionProperty target = .ok property) : parameterName target = .ok property.name := by
  simp only [optionProperty, Result.bind_eq_ok_iff, Result.pure_def, Except.ok.injEq] at h
  obtain ⟨name, hname, _, -, _, -, _, -, rfl⟩ := h
  exact hname

/-- There is an optional parameter unless a call must give them all. -/
theorem isEmpty_filter_not_required (passages : List Passage) :
    ((passages.filter (!·.required)).map Passage.target).isEmpty =
      passages.all (·.required) := by
  rw [Bool.eq_iff_iff]
  simp [List.filter_eq_nil_iff]

/-- The names of the arguments of an operation: its required parameters in order, its body, and the
object of its optional parameters. -/
theorem map_name_of_arguments {args : List Argument} {typed : Bool} {package : Text}
    (hpassages : List.Forall₂ (IsPassage document) op.parameters passages)
    (h : arguments document op typed package = .ok args) :
    args.map Argument.name = (passages.filter (·.required)).map Passage.argument ++
      (if op.requestBody.isTrue then [Text.ofString "body"] else []) ++
      if passages.all (·.required) then [] else [Text.ofString "options"] := by
  obtain ⟨split, row, hrow, rfl⟩ := arguments_eq_ok_iff.mp h
  obtain ⟨hgiven, hoptional⟩ := partitioned_of_passages hpassages hrow.split
  have hrequired := hrow.required
  rw [hgiven] at hrequired
  rw [hrow.map_name_toList, bodyName, optionsName, hoptional, isEmpty_filter_not_required,
    map_name_of_mapM (fun _ _ => parameterName_of_requiredArgument) hpassages
      (List.filter_subset_self _) hrequired]

/-- The properties of the type of the optional parameters are these, in order, under their names;
without any there is no such type. -/
theorem map_name_of_optionsType {type : Option OptionsType}
    (hpassages : List.Forall₂ (IsPassage document) op.parameters passages)
    (h : optionsType op ((passages.filter (!·.required)).map Passage.target) = .ok type) :
    type.map (fun t => t.properties.map OptionProperty.name) =
      if passages.all (·.required) then none
      else some ((passages.filter (!·.required)).map Passage.argument) := by
  rw [optionsType, isEmpty_filter_not_required] at h
  split at h
  · next hall =>
    obtain rfl := Except.ok.inj h
    rw [if_pos hall]
    rfl
  · next hall =>
    simp only [Result.bind_eq_ok_iff, Result.pure_def, Except.ok.injEq] at h
    obtain ⟨_, -, name, -, properties, hproperties, rfl⟩ := h
    rw [if_neg hall, ← map_name_of_mapM (fun _ _ => parameterName_of_optionProperty) hpassages
      (List.filter_subset_self _) hproperties]
    rfl

/-- What the parts of an operation are made of: its parameters as they are split, the schema of its
request body, and its arguments. -/
structure IsView (document : Value) (op : Operation) (options : Options) (view : OperationView)
    (parameters : Api.Parameters) (bodySchema : Value) (args : List Argument) : Prop where
  split : Api.partitioned document op.parameters = .ok parameters
  schema : Api.requestSchema document op.requestBody = .ok bodySchema
  arguments : Client.arguments document op options.typed [] = .ok args
  docLines : Client.docLines op parameters bodySchema = .ok view.docLines
  signature : view.signature = Text.intercalate ", " (args.map Argument.text)
  groups : parameterGroups document op.parameters = .ok view.groups
  optionsType : Client.optionsType op parameters.optional = .ok view.optionsType
  info : callInfo op = .ok view.info
  hasOptionals : view.hasOptionals = !parameters.optional.isEmpty
  hasBody : view.hasBody = op.requestBody.isTrue
  hasParameters : view.hasParameters = (!view.groups.isEmpty || view.hasBody)

/-- The view of an operation is made of such parts. -/
theorem exists_isView (h : operationView document op options = .ok view) :
    ∃ parameters schema args, IsView document op options view parameters schema args := by
  simp only [operationView, signature, ite_eq_iff, Result.bind_eq_ok_iff, Result.pure_def,
    Except.ok.injEq] at h
  obtain ⟨split, hsplit, schema, hschema, groups, hgroups, ⟨-, h⟩ | ⟨-, h⟩⟩ := h
  · obtain ⟨_, -, lines, hlines, _, ⟨args, hargs, rfl⟩, type, htype, info, hinfo, rfl⟩ := h
    exact ⟨split, schema, args, hsplit, hschema, hargs, hlines, rfl, hgroups, htype, hinfo, rfl,
      rfl, rfl⟩
  · obtain ⟨_, -, lines, hlines, _, ⟨args, hargs, rfl⟩, type, htype, info, hinfo, rfl⟩ := h
    exact ⟨split, schema, args, hsplit, hschema, hargs, hlines, rfl, hgroups, htype, hinfo, rfl,
      rfl, rfl⟩

end Operation

/-- Entries make no groups exactly when there are none. -/
theorem isEmpty_groupsOf (es : List (Value × Text)) : (groupsOf es).isEmpty = es.isEmpty := by
  cases es <;> rw [groupsOf] <;> rfl

/-- **No parameter is lost, doubled or unbound.** The parameters of an operation have passages, one
for each and in order, and the parts of the operation are made of them:

* every passage has one entry in the request, in the group of its location, and the groups stand in
  the order in which the locations appear;
* a required parameter is an argument and an optional one a field of the type of the optional
  parameters, both in order, under the name by which the entry reads it;
* with an optional parameter the last argument is their object, and the first statement of the
  function puts an empty one in its place if it was left out. -/
theorem operationView_binds {document : Value} {op : Operation} {options : Options}
    {view : OperationView} (h : operationView document op options = .ok view) :
    ∃ (passages : List Passage) (args : List Argument),
      List.Forall₂ (IsPassage document) op.parameters passages ∧
      view.groups = groupsOf (passages.map fun p => (p.location, p.entry)) ∧
      (view.groups.flatMap ParameterGroup.entries).Perm (passages.map Passage.entry) ∧
      (view.groups.Pairwise fun a b => a.location.same b.location = false) ∧
      (∀ group ∈ view.groups, ∀ location, group.location = .str location →
        group.entries =
          (passages.filter (·.location.isText location)).map Passage.entry) ∧
      view.signature = Text.intercalate ", " (args.map Argument.text) ∧
      args.map Argument.name = (passages.filter (·.required)).map Passage.argument ++
        (if op.requestBody.isTrue then [Text.ofString "body"] else []) ++
        (if passages.all (·.required) then [] else [Text.ofString "options"]) ∧
      view.optionsType.map (fun t => t.properties.map OptionProperty.name) =
        (if passages.all (·.required) then none
        else some ((passages.filter (!·.required)).map Passage.argument)) ∧
      ((∃ p ∈ passages, p.required = false) →
        view.hasOptionals = true ∧ view.hasParameters = true ∧
          (args.getLast?.map Argument.name) = some (Text.ofString "options") ∧
          ∀ s text, s.bindings.lookup (Text.ofString "op") = some view.toValue →
            Template.renderParts s Template.operationFunction = .ok text →
            ∃ comment id st rest, text = comment ++ "export function " ++ id ++ "(" ++
              view.signature ++ ")" ++ view.returnSignature ++ " \x7b" ++ "\n" ++
              Template.optionsGuard ++ st ++ "\n" ++ "  const parameters" ++ rest) := by
  obtain ⟨split, schema, args, hview⟩ := exists_isView h
  obtain ⟨passages, hpassages, hgrouped⟩ := exists_passages_of_parameterGroups hview.groups
  obtain ⟨-, hoptional⟩ := partitioned_of_passages hpassages hview.split
  have htype := hview.optionsType
  have hoptionals := hview.hasOptionals
  rw [hoptional] at htype
  rw [hoptional, isEmpty_filter_not_required] at hoptionals
  have hnames := map_name_of_arguments hpassages hview.arguments
  refine ⟨passages, args, hpassages, hgrouped, ?_, ?_, ?_, hview.signature, hnames,
    map_name_of_optionsType hpassages htype, ?_⟩
  · rw [hgrouped]
    simpa [Function.comp_def] using groupsOf_perm (passages.map fun p => (p.location, p.entry))
  · rw [hgrouped]
    exact pairwise_groupsOf _
  · intro group hgroup location hlocation
    rw [hgrouped] at hgroup
    rw [entries_of_mem_groupsOf hgroup hlocation, List.filter_map]
    simp [Function.comp_def]
  · rintro ⟨p, hp, hfalse⟩
    have hall : passages.all (·.required) = false := by
      rw [List.all_eq_false]
      exact ⟨p, hp, by simp [hfalse]⟩
    have hhasOptionals : view.hasOptionals = true := by rw [hoptionals, hall]; rfl
    have hhasParameters : view.hasParameters = true := by
      rw [hview.hasParameters, hgrouped, isEmpty_groupsOf]
      cases passages with
      | nil => cases hp
      | cons first passages => rfl
    refine ⟨hhasOptionals, hhasParameters, ?_, fun s text hop htext =>
      Template.renderParts_operationFunction hop hhasOptionals hhasParameters htext⟩
    rw [← List.getLast?_map, hnames, hall]
    simp

/-- A description that keeps a date that may be null as a parameter. -/
def datedDocument : Value :=
  record [("components", record [("schemas", record [("Since", record [
    ("name", .str "since-day"), ("type", .str "string"), ("format", .str "date"),
    ("nullable", .bool true)])])])]

/-- An operation with two required parameters, the second of them an array in a header, and between
them an optional date that is referred to. -/
def datedOperation : Operation where
  id := .str "listVisits"
  method := "get"
  path := .str "/visits"
  group := "visits"
  summary := .null
  description := .null
  parameters := [
    record [("name", .str "id"), ("in", .str "path"), ("required", .bool true),
      ("type", .str "string")],
    record [("$ref", .str "#/components/schemas/Since")],
    record [("name", .str "x-tags"), ("in", .str "header"), ("required", .bool true),
      ("type", .str "array"), ("items", record [("type", .str "string")]),
      ("collectionFormat", .str "csv")]]
  requestBody := .null
  responses := []
  security := none
  tags := .null

/-- The date is read as a field of the options, which are guarded; the others are read as they come
in. -/
theorem operationView_datedOperation : ∃ view,
    operationView datedDocument datedOperation (.usual "out") = .ok view ∧
      view.signature = "id: string, xTags: string[], options?: ListVisitsOptions" ∧
      view.groups.map ParameterGroup.entries = [[Text.ofString "id"],
        [Text.ofString "'since-day': gateway.formatDate(options.sinceDay, 'date')"],
        [Text.ofString "'x-tags': gateway.formatArrayParam(xTags, 'csv', 'x-tags')"]] ∧
      view.hasOptionals = true ∧ view.hasParameters = true := by
  have hview : operationView datedDocument datedOperation (.usual "out") = .ok _ := rfl
  obtain ⟨passages, args, hpassages, -, -, -, -, -, -, -, hguarded⟩ := operationView_binds hview
  have hdate : ∃ p ∈ passages, p.required = false :=
    exists_mem_of_isRequired hpassages (List.mem_cons_of_mem _ List.mem_cons_self) rfl
  obtain ⟨hoptionals, hparameters, -⟩ := hguarded hdate
  exact ⟨_, hview, by decide +kernel, by decide +kernel, hoptionals, hparameters⟩

end ClientScribe.Client
