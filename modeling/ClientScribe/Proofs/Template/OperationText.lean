import ClientScribe.Client.OperationView
import ClientScribe.Proofs.Template.Rendering
import ClientScribe.Template.Operations

/-!
# The Text of an Operation

What the template of a group's file makes of the view of an operation, read off the view: the
comment and the head of its function, the object with the parameters of the request
(`renderParts_operationFunction_eq_ok`), and the type of its optional parameters
(`renderParts_optionsInterface_eq_ok`).

A call may leave out the object of the optional parameters. The function of an operation that has
any puts an empty object in its place before it reads a field of it
(`renderParts_operationFunction`).
-/

namespace ClientScribe.Template

open Client (OperationView OptionsType)
open Document (Value Entries lookup record)

variable {s : Scope} {text : Text} {view : OperationView}

/-! ### Fields -/

/-- A field of a value that is there. -/
theorem eval_field {e : Expr} {field : Text} {v : Value} {es : Entries}
    (he : e.eval s = .ok (some v)) (hv : v.view = .map es) :
    (Expr.field e field).eval s = .ok (lookup field es) := by
  simp [Expr.eval, he, hv]

/-- A field of what a name is bound to. -/
theorem eval_dot {name field : Text} {v : Value} {es : Entries}
    (hname : s.bindings.lookup name = some v) (hv : v.view = .map es) :
    (dot name field).eval s = .ok (lookup field es) :=
  eval_field (congrArg Except.ok hname) hv

/-- A text that is written from a field. -/
theorem renderPart_field {e : Expr} {field : Text} {v : Value} {es : Entries} {written : Text}
    (he : e.eval s = .ok (some v)) (hv : v.view = .map es)
    (hfield : lookup field es = some (.str written))
    (h : renderPart s (.value (.field e field)) = .ok text) : text = written := by
  obtain ⟨w, hw, htext⟩ := renderPart_value_eq_ok_iff.mp h
  rw [eval_field he hv, hfield] at hw
  obtain rfl := Option.some.inj (Except.ok.inj hw)
  exact (Except.ok.inj htext).symm

/-- A text that is written from a field of what a name is bound to. -/
theorem renderPart_dot {name field : Text} {v : Value} {es : Entries} {written : Text}
    (hname : s.bindings.lookup name = some v) (hv : v.view = .map es)
    (hfield : lookup field es = some (.str written))
    (h : renderPart s (.value (dot name field)) = .ok text) : text = written :=
  renderPart_field (e := var name) (congrArg Except.ok hname) hv hfield h

/-- A choice whose condition is known writes the row for it. -/
theorem renderParts_of_choice {e : Expr} {v : Value} {yes no : List Part}
    (he : e.eval s = .ok (some v)) (h : renderPart s (.choice e yes no) = .ok text) :
    renderParts s (if v.isTrue then yes else no) = .ok text := by
  obtain ⟨w, hw, htext⟩ := renderPart_choice_eq_ok_iff.mp h
  rw [he] at hw
  obtain rfl := Option.some.inj (Except.ok.inj hw)
  exact htext

/-- A choice on a field that is true or false writes the row for it. -/
theorem renderParts_of_dot {name : Text} {v : Value} {es : Entries} {yes no : List Part} {b : Bool}
    (field : Text) (hname : s.bindings.lookup name = some v) (hv : v.view = .map es)
    (hfield : lookup field es = some (.bool b))
    (h : renderPart s (.choice (dot name field) yes no) = .ok text) :
    renderParts s (if b then yes else no) = .ok text :=
  renderParts_of_choice ((eval_dot hname hv).trans (congrArg Except.ok hfield)) h

/-- Text that is written if a condition holds. -/
theorem renderPart_optional_text {e : Expr} {v : Value} {written : Text}
    (he : e.eval s = .ok (some v)) (h : renderPart s (optional e [.text written]) = .ok text) :
    text = if v.isTrue then written else [] := by
  have htext := renderParts_of_choice he h
  cases hv : v.isTrue with
  | false =>
      rw [hv] at htext
      exact (Except.ok.inj htext).symm
  | true =>
      rw [hv] at htext
      obtain ⟨_, hnil, rfl⟩ := exists_append_of_renderParts htext
      obtain rfl := Except.ok.inj hnil
      simp

/-- Text that is written if a field is true. -/
theorem renderPart_optional_dot {name : Text} {v : Value} {es : Entries} {b : Bool}
    {written : Text} (field : Text) (hname : s.bindings.lookup name = some v)
    (hv : v.view = .map es) (hfield : lookup field es = some (.bool b))
    (h : renderPart s (optional (dot name field) [.text written]) = .ok text) :
    text = if b then written else [] :=
  renderPart_optional_text ((eval_dot hname hv).trans (congrArg Except.ok hfield)) h

/-- A statement is its text, the end of statements and the end of the line. -/
theorem renderParts_statement_eq_ok {written : Text}
    (h : renderParts s (statement written) = .ok text) :
    ∃ st, renderPart s (.value (var "st")) = .ok st ∧ text = written ++ st ++ "\n" := by
  obtain ⟨_, hend, rfl⟩ := exists_append_of_renderParts h
  obtain ⟨st, _, hst, hline, rfl⟩ := renderParts_cons_eq_ok_iff.mp hend
  obtain ⟨_, hnil, rfl⟩ := exists_append_of_renderParts hline
  obtain rfl := Except.ok.inj hnil
  exact ⟨st, hst, by simp⟩

/-- A text that a name is bound to is written as it is. -/
theorem eq_of_renderPart_var {name written : Text}
    (hname : s.bindings.lookup name = some (.str written))
    (h : renderPart s (.value (var name)) = .ok text) : text = written := by
  obtain ⟨v, hv, htext⟩ := renderPart_value_eq_ok_iff.mp h
  obtain rfl : .str written = v := Option.some.inj (hname.symm.trans (Except.ok.inj hv))
  exact (Except.ok.inj htext).symm

/-! ### The function -/

/-- The statement that puts an empty object in the place of one that was left out. -/
def optionsGuard : Text := "  if (!options) options = \x7b\x7d"

/-- The guard of the optional parameters, if there are any. -/
def guardText (view : OperationView) (st : Text) : Text :=
  if view.hasOptionals then optionsGuard ++ st ++ "\n" else []

/-- The entry of the body, if there is one. -/
def bodyEntry (view : OperationView) : Text :=
  if view.hasBody then "    body: body\n" else []

/-- The object with the parameters of a request, given the end of statements, its type and its
groups as they are written: nothing for an operation without parameters. -/
def objectText (view : OperationView) (st type groups : Text) : Text :=
  if view.hasParameters then
    guardText view st ++ "  const parameters" ++ type ++ " = \x7b\n" ++ groups ++ bodyEntry view ++
      "  \x7d" ++ st ++ "\n"
  else []

/-- The text of the groups of parameters of an operation, as the template writes it. -/
def WritesGroups (view : OperationView) (groups : Text) : Prop :=
  ∃ s : Scope, s.bindings.lookup (Text.ofString "op") = some view.toValue ∧
    renderPart s parameterGroups = .ok groups

/-- What the parts of an object of a request are written from: the groups, the end of statements and
the type. -/
structure WritesObject (s : Scope) (view : OperationView) (st type groups : Text) : Prop where
  groups : WritesGroups view groups
  statementEnd : renderPart s (.value (var "st")) = .ok st
  type : renderPart s (optional (var "typed") [.text ": api.OperationParamGroups"]) = .ok type

/-- The object of a request as the template writes it. -/
theorem renderPart_parametersLiteral_eq_ok
    (hop : s.bindings.lookup (Text.ofString "op") = some view.toValue)
    (h : renderPart s parametersLiteral = .ok text) :
    ∃ st type groups, (view.hasParameters = true → WritesObject s view st type groups) ∧
      text = objectText view st type groups := by
  have htext := renderParts_of_dot "has_parameters" hop rfl rfl h
  split at htext
  · next hparameters =>
    obtain ⟨_, _, hfirst, hend, rfl⟩ := renderParts_append_eq_ok_iff.mp htext
    obtain ⟨guard, _, hguard, hrest, rfl⟩ := renderParts_cons_eq_ok_iff.mp hfirst
    obtain ⟨_, htype, rfl⟩ := exists_append_of_renderParts hrest
    obtain ⟨type, _, hannotated, hopen, rfl⟩ := renderParts_cons_eq_ok_iff.mp htype
    obtain ⟨_, hgroups, rfl⟩ := exists_append_of_renderParts hopen
    obtain ⟨groups, _, hwritten, hbody, rfl⟩ := renderParts_cons_eq_ok_iff.mp hgroups
    obtain ⟨body, _, hentry, hnil, rfl⟩ := renderParts_cons_eq_ok_iff.mp hbody
    obtain rfl := Except.ok.inj hnil
    obtain ⟨st, hst, rfl⟩ := renderParts_statement_eq_ok hend
    have hbody : body = bodyEntry view := renderPart_optional_dot "has_body" hop rfl rfl hentry
    have hoptionals := renderParts_of_dot "has_optionals" hop rfl rfl hguard
    have hguard : guard = guardText view st := by
      unfold guardText
      split at hoptionals
      · next hguarded =>
        obtain ⟨st', hst', rfl⟩ := renderParts_statement_eq_ok hoptionals
        obtain rfl := Except.ok.inj (hst.symm.trans hst')
        rw [if_pos hguarded]
        rfl
      · next hguarded =>
        rw [if_neg hguarded]
        exact (Except.ok.inj hoptionals).symm
    refine ⟨st, type, groups, fun _ => ⟨⟨s, hop, hwritten⟩, hst, hannotated⟩, ?_⟩
    rw [objectText, if_pos hparameters, ← hguard, ← hbody]
    simp only [List.append_assoc, List.append_nil]
    rfl
  · next hparameters =>
    refine ⟨[], [], [], fun htrue => absurd htrue hparameters, ?_⟩
    rw [objectText, if_neg hparameters]
    exact (Except.ok.inj htext).symm

/-- The comment of a function, given its lines. -/
def commentText (lines : List Text) : Text :=
  Text.ofString "/**\n" ++ lines.flatMap (· ++ [.char '\n']) ++ Text.ofString " */\n"

/-- The comment of a function as the template writes it. -/
theorem renderParts_operationComment_eq_ok
    (hop : s.bindings.lookup (Text.ofString "op") = some view.toValue)
    (h : renderParts s operationComment = .ok text) : text = commentText view.docLines := by
  obtain ⟨_, hbehind, rfl⟩ := exists_append_of_renderParts h
  obtain ⟨lines, _, hlines, hend, rfl⟩ := renderParts_cons_eq_ok_iff.mp hbehind
  obtain ⟨_, hnil, rfl⟩ := exists_append_of_renderParts hend
  obtain rfl := Except.ok.inj hnil
  have hmembers : (dot "op" "doc_lines").eval s = .ok (some (.list (view.docLines.map .str))) :=
    eval_dot hop rfl
  have hbody (v : Value) (hv : v ∈ view.docLines.map Value.str) (isLast : Bool) (here : Text)
      (hhere : renderParts (s.bind "line" v isLast) [.value (var "line"), lineEnd] = .ok here) :
      here = v.text?.getD [] ++ [.char '\n'] := by
    obtain ⟨line, -, rfl⟩ := List.mem_map.mp hv
    obtain ⟨_, _, hline, hend, rfl⟩ := renderParts_cons_eq_ok_iff.mp hhere
    obtain ⟨_, hnil, rfl⟩ := exists_append_of_renderParts hend
    obtain rfl := Except.ok.inj hnil
    obtain ⟨w, hw, htext⟩ := renderPart_value_eq_ok_iff.mp hline
    obtain rfl : .str line = w := Option.some.inj (Except.ok.inj hw)
    obtain rfl := Except.ok.inj htext
    rfl
  rw [renderPart_forEach_eq_ok hmembers hbody hlines, List.flatMap_map]
  simp only [commentText, Value.text?, Option.getD_some, List.append_nil, List.append_assoc]
  rfl

/-- The function of an operation as far as its call, given its name and, for the object of the
request, the end of statements, the type and the groups. -/
def functionText (view : OperationView) (id st type groups : Text) : Text :=
  commentText view.docLines ++ "export function " ++ id ++ "(" ++ view.signature ++ ")" ++
    view.returnSignature ++ " \x7b" ++ "\n" ++ objectText view st type groups

/-- The call behind the object of the request, which is passed on if there is one, and the end of
the function. -/
def callText (view : OperationView) (id st : Text) : Text :=
  "  return gateway.request(" ++ id ++ "Operation" ++
    (if view.hasParameters then Text.ofString ", parameters" else []) ++ ")" ++ st ++
    "\n" ++ "\x7d\n" ++ "\n"

/-- The object of a request does not matter to an operation without parameters. -/
theorem objectText_congr {st st' type groups : Text} (h : view.hasParameters = true → st = st') :
    objectText view st type groups = objectText view st' type groups := by
  unfold objectText
  split
  · next hparameters => rw [h hparameters]
  · rfl

/-- The id of an operation as it is written. -/
theorem text_of_renderPart_id (hop : s.bindings.lookup (Text.ofString "op") = some view.toValue)
    (h : renderPart s (.value (dot "op" "id")) = .ok text) : view.id.text = .ok text := by
  obtain ⟨v, hv, htext⟩ := renderPart_value_eq_ok_iff.mp h
  rw [eval_dot hop rfl] at hv
  obtain rfl : view.id = v := Option.some.inj (Except.ok.inj hv)
  exact htext

/-- The call as the template writes it, as far as its closing bracket. -/
theorem renderParts_call_eq_ok {id : Text}
    (hop : s.bindings.lookup (Text.ofString "op") = some view.toValue)
    (hid : view.id.text = .ok id)
    (h : renderParts s [.text "  return gateway.request(", .value (dot "op" "id"),
      .text "Operation", optional (dot "op" "has_parameters") [.text ", parameters"]] = .ok text) :
    text = "  return gateway.request(" ++ id ++ "Operation" ++
      (if view.hasParameters then Text.ofString ", parameters" else []) := by
  obtain ⟨_, hnamed, rfl⟩ := exists_append_of_renderParts h
  obtain ⟨called, _, hcalled, hrecord, rfl⟩ := renderParts_cons_eq_ok_iff.mp hnamed
  obtain rfl := Except.ok.inj (hid.symm.trans (text_of_renderPart_id hop hcalled))
  obtain ⟨_, hobject, rfl⟩ := exists_append_of_renderParts hrecord
  obtain ⟨passed, _, hpassed, hnil, rfl⟩ := renderParts_cons_eq_ok_iff.mp hobject
  obtain rfl := Except.ok.inj hnil
  obtain rfl := renderPart_optional_dot (v := view.toValue) "has_parameters" hop rfl rfl hpassed
  simp only [List.append_assoc, List.append_nil]

/-- **The function of an operation.** The template writes the comment, the head with the signature,
the object of the request and the call from the view of the operation. -/
theorem renderParts_operationFunction_eq_ok
    (hop : s.bindings.lookup (Text.ofString "op") = some view.toValue)
    (h : renderParts s operationFunction = .ok text) :
    ∃ id st type groups, view.id.text = .ok id ∧ renderPart s (.value (var "st")) = .ok st ∧
      (view.hasParameters = true → WritesObject s view st type groups) ∧
      text = functionText view id st type groups ++ callText view id st := by
  obtain ⟨_, last, hfront, hlast, rfl⟩ := renderParts_append_eq_ok_iff.mp h
  obtain ⟨_, close, hparts, hclosing, rfl⟩ := renderParts_append_eq_ok_iff.mp hfront
  obtain ⟨comment, _, hcomment, hfunction, rfl⟩ := renderParts_append_eq_ok_iff.mp hparts
  obtain rfl := renderParts_operationComment_eq_ok hop hcomment
  obtain ⟨_, hnamed, rfl⟩ := exists_append_of_renderParts hfunction
  obtain ⟨id, _, hid, hopen, rfl⟩ := renderParts_cons_eq_ok_iff.mp hnamed
  replace hid := text_of_renderPart_id hop hid
  obtain ⟨_, harguments, rfl⟩ := exists_append_of_renderParts hopen
  obtain ⟨signature, _, hsignature, hclose, rfl⟩ := renderParts_cons_eq_ok_iff.mp harguments
  obtain ⟨_, hreturn, rfl⟩ := exists_append_of_renderParts hclose
  obtain ⟨returned, _, hreturned, hbody, rfl⟩ := renderParts_cons_eq_ok_iff.mp hreturn
  obtain ⟨_, hstatements, rfl⟩ := exists_append_of_renderParts hbody
  obtain ⟨literal, call, hliteral, hcall, rfl⟩ := renderParts_cons_eq_ok_iff.mp hstatements
  obtain rfl := renderPart_dot (v := view.toValue) hop rfl rfl hsignature
  obtain rfl := renderPart_dot (v := view.toValue) hop rfl rfl hreturned
  obtain rfl := renderParts_call_eq_ok hop hid hcall
  obtain ⟨st, hst, rfl⟩ := renderParts_statement_eq_ok hclosing
  obtain ⟨_, hblank, rfl⟩ := exists_append_of_renderParts hlast
  obtain ⟨_, hnil, rfl⟩ := exists_append_of_renderParts hblank
  obtain rfl := Except.ok.inj hnil
  obtain ⟨st', type, groups, hobject, rfl⟩ := renderPart_parametersLiteral_eq_ok hop hliteral
  have hsame (hparameters : view.hasParameters = true) : st' = st :=
    Except.ok.inj ((hobject hparameters).statementEnd.symm.trans hst)
  refine ⟨id, st, type, groups, hid, hst,
    fun hparameters => hsame hparameters ▸ hobject hparameters, ?_⟩
  rw [objectText_congr hsame]
  simp only [functionText, callText, List.append_assoc, List.append_nil]
  rfl

/-! ### The type of the optional parameters -/

/-- The head of the type of the optional parameters. -/
def interfaceHead (type : OptionsType) : Text :=
  "export interface " ++ type.name ++ " \x7b" ++ "\n"

/-- The type of the optional parameters is exported under its name. -/
theorem renderParts_optionsInterface_eq_ok {type : OptionsType}
    (hop : s.bindings.lookup (Text.ofString "op") = some view.toValue)
    (htype : view.optionsType = some type) (h : renderParts s optionsInterface = .ok text) :
    ∃ properties, text = interfaceHead type ++ properties := by
  have hview : (dot "op" "options_type").eval s = .ok (some type.toValue) := by
    cases view
    cases htype
    exact eval_dot hop rfl
  obtain ⟨_, hnamed, rfl⟩ := exists_append_of_renderParts h
  obtain ⟨name, _, hname, hopen, rfl⟩ := renderParts_cons_eq_ok_iff.mp hnamed
  obtain ⟨properties, -, rfl⟩ := exists_append_of_renderParts hopen
  obtain rfl := renderPart_field hview rfl rfl hname
  refine ⟨properties, ?_⟩
  simp only [interfaceHead, List.append_assoc]

/-! ### The file of a group -/

/-- In the file of a group stand the function of each of its operations and, in the language with
types, the type of its optional parameters. -/
theorem exists_infix_of_operations {views : List OperationView} {typed : Bool}
    (hoperations : s.bindings.lookup (Text.ofString "operations") =
      some (.list (views.map OperationView.toValue)))
    (htyped : s.bindings.lookup (Text.ofString "typed") = some (.bool typed)) (hview : view ∈ views)
    (h : renderParts s operations = .ok text) :
    (∃ id st type groups, view.id.text = .ok id ∧
      (view.hasParameters = true → WritesGroups view groups) ∧
      functionText view id st type groups <:+: text) ∧
      (typed = true → ∀ type ∈ view.optionsType, interfaceHead type <:+: text) := by
  have heval : (var "operations").eval s = .ok (some (.list (views.map OperationView.toValue))) :=
    congrArg Except.ok hoperations
  have hvalue : view.toValue ∈ views.map OperationView.toValue := List.mem_map_of_mem hview
  constructor
  · obtain ⟨functions, hfunctions, hloop⟩ :=
      exists_infix_of_mem (p := forEach "op" (var "operations") operationFunction)
        (by simp [operations]) h
    obtain ⟨_, function, hfunction, hinfix⟩ :=
      exists_infix_of_each heval hvalue (by rintro _ ⟨⟩) hfunctions
    obtain ⟨id, st, type, groups, hid, -, hobject, rfl⟩ :=
      renderParts_operationFunction_eq_ok rfl hfunction
    have hhead := (List.prefix_append (functionText view id st type groups)
      (callText view id st)).isInfix
    exact ⟨id, st, type, groups, hid, fun hparameters => (hobject hparameters).groups,
      (hhead.trans hinfix).trans hloop⟩
  · rintro rfl type htype
    obtain ⟨types, htypes, hloop⟩ :=
      exists_infix_of_mem (p := optional (var "typed")
        [.each "op" (var "operations") (some (dot "op" "options_type")) optionsInterface])
        (by simp [operations]) h
    obtain ⟨v, hv, htypes⟩ := renderPart_choice_eq_ok_iff.mp htypes
    obtain rfl := Option.some.inj (htyped.symm.trans (Except.ok.inj hv))
    obtain ⟨loop, heach, hchosen⟩ := exists_infix_of_mem List.mem_cons_self htypes
    -- the condition of the loop holds, since a type is a record with entries
    have hcondition : (dot "op" "options_type").holds (s.bind "op" view.toValue false) =
        .ok true := by
      cases view
      cases htype
      rfl
    obtain ⟨_, interface, hinterface, hinfix⟩ :=
      exists_infix_of_each heval hvalue (by rintro _ ⟨⟩; exact hcondition) heach
    obtain ⟨properties, rfl⟩ := renderParts_optionsInterface_eq_ok rfl htype hinterface
    have hhead := (List.prefix_append (interfaceHead type) properties).isInfix
    exact ((hhead.trans hinfix).trans hchosen).trans hloop

/-! ### The guard of the optional parameters -/

/-- The object of a request with optional parameters among the others starts with the guard. -/
theorem exists_objectText_eq (hoptionals : view.hasOptionals = true)
    (hparameters : view.hasParameters = true) (st type groups : Text) :
    ∃ rest, objectText view st type groups =
      optionsGuard ++ st ++ "\n" ++ "  const parameters" ++ rest := by
  rw [objectText, if_pos hparameters, guardText, if_pos hoptionals]
  refine ⟨type ++ " = \x7b\n" ++ groups ++ bodyEntry view ++ "  \x7d" ++ st ++ "\n", ?_⟩
  simp only [List.append_assoc]

/-- **The guard comes first.** In the function of an operation with optional parameters the first
statement behind the signature puts an empty object in the place of one that was left out. -/
theorem renderParts_operationFunction
    (hop : s.bindings.lookup (Text.ofString "op") = some view.toValue)
    (hoptionals : view.hasOptionals = true) (hparameters : view.hasParameters = true)
    (h : renderParts s operationFunction = .ok text) :
    ∃ comment id st rest, text = comment ++ "export function " ++ id ++ "(" ++ view.signature ++
      ")" ++ view.returnSignature ++ " \x7b" ++ "\n" ++ optionsGuard ++ st ++ "\n" ++
      "  const parameters" ++ rest := by
  obtain ⟨id, st, type, groups, -, -, -, rfl⟩ := renderParts_operationFunction_eq_ok hop h
  obtain ⟨rest, hrest⟩ := exists_objectText_eq hoptionals hparameters st type groups
  refine ⟨commentText view.docLines, id, st, rest ++ callText view id st, ?_⟩
  rw [functionText, hrest]
  simp only [List.append_assoc]

end ClientScribe.Template
