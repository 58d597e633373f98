import ClientScribe.Client.Action
import ClientScribe.Client.Declaration
import ClientScribe.Proofs.Template.OperationText
import ClientScribe.Template.Actions
import ClientScribe.Template.Types
import Mathlib.Data.List.Nodup

/-!
# What the Files Declare

The file of a group of operations has a function for every operation and, behind all of them, a
record of how each one is called. The file of the group's actions has two constants and a function
for every action. The file of types has a declaration for every definition and, behind all of them,
the support types, which are always the same. These texts are cut here into pieces, one for each
declaration, and of every piece it is said what it declares and under which name:

* `exists_pieces_of_operations`: the functions and the records of a group's file;
* `exists_pieces_of_actions`: the constants and the functions of a file of actions;
* `exists_pieces_of_types`: the types in the namespace of the file of types.
-/

namespace ClientScribe.Template

open Client (OperationView ActionView Declaration)
open Document (Value lookup record)

variable {s : Scope} {text : Text}

/-- A repetition over all members writes a row of pieces, one for each of them. -/
theorem exists_pieces_of_forEach {α : Type} {name : Text} {e : Expr} {body : List Part}
    {views : List α} {value : α → Value} {piece : α → Text → Prop}
    (hmembers : e.eval s = .ok (some (.list (views.map value))))
    (hbody : ∀ view isLast here,
      renderParts (s.bind name (value view) isLast) body = .ok here → piece view here)
    (h : renderPart s (forEach name e body) = .ok text) :
    ∃ pieces, List.Forall₂ piece views pieces ∧ text = pieces.flatten := by
  obtain ⟨chosen, pieces, hchosen, hpieces, rfl⟩ := exists_texts_of_each hmembers h
  obtain rfl := Except.ok.inj hchosen
  refine ⟨pieces, ?_, rfl⟩
  clear hmembers h hchosen
  induction views generalizing pieces with
  | nil =>
      obtain rfl := Except.ok.inj hpieces
      exact .nil
  | cons view views ih =>
      simp only [List.map_cons, turns, List.mapM_cons, Result.bind_eq_ok_iff, Result.pure_def,
        Except.ok.injEq] at hpieces
      obtain ⟨here, hhere, others, hothers, rfl⟩ := hpieces
      exact .cons (hbody view _ here hhere) (ih others hothers)

/-! ### The file of a group's operations -/

/-- The head of the function of an operation. -/
def functionHead (id : Text) : Text := "export function " ++ id ++ "("

/-- The name of the record of how an operation is called. -/
def recordName (id : Text) : Text := id ++ "Operation"

/-- The piece of a text with the function of an operation. -/
def IsFunction (view : OperationView) (piece : Text) : Prop :=
  ∃ id rest, view.id.text = .ok id ∧
    piece = commentText view.docLines ++ functionHead id ++ rest

/-- The piece of a text with the record of how an operation is called. -/
def IsRecord (view : OperationView) (piece : Text) : Prop :=
  ∃ id rest, view.id.text = .ok id ∧ piece = "const " ++ recordName id ++ rest

/-- The template writes a function for an operation. -/
theorem isFunction_of_renderParts {view : OperationView}
    (hop : s.bindings.lookup (Text.ofString "op") = some view.toValue)
    (h : renderParts s operationFunction = .ok text) : IsFunction view text := by
  obtain ⟨id, st, type, groups, hid, -, -, rfl⟩ := renderParts_operationFunction_eq_ok hop h
  refine ⟨id, view.signature ++ ")" ++ view.returnSignature ++ " \x7b" ++ "\n" ++
    objectText view st type groups ++ callText view id st, hid, ?_⟩
  simp only [functionText, functionHead, List.append_assoc]

/-- The template writes a record for an operation. -/
theorem isRecord_of_renderParts {view : OperationView}
    (hop : s.bindings.lookup (Text.ofString "op") = some view.toValue)
    (h : renderParts s callRecord = .ok text) : IsRecord view text := by
  obtain ⟨_, last, hfront, -, rfl⟩ := renderParts_append_eq_ok_iff.mp h
  obtain ⟨_, close, hparts, -, rfl⟩ := renderParts_append_eq_ok_iff.mp hfront
  obtain ⟨_, hnamed, rfl⟩ := exists_append_of_renderParts hparts
  obtain ⟨id, _, hid, hopen, rfl⟩ := renderParts_cons_eq_ok_iff.mp hnamed
  obtain ⟨rest, -, rfl⟩ := exists_append_of_renderParts hopen
  refine ⟨id, rest ++ close ++ last, text_of_renderPart_id hop hid, ?_⟩
  simp only [recordName, List.append_assoc]

/-- The file of a group is cut into what its two loops write: something for every operation, and
behind the types of the optional parameters something else for every operation, both in order. -/
theorem exists_cut_of_operations {views : List OperationView}
    {function record : OperationView → Text → Prop}
    (hoperations : s.bindings.lookup (Text.ofString "operations") =
      some (.list (views.map OperationView.toValue)))
    (hfunction : ∀ view isLast here, renderParts (s.bind "op" view.toValue isLast)
      operationFunction = .ok here → function view here)
    (hrecord : ∀ view isLast here, renderParts (s.bind "op" view.toValue isLast)
      callRecord = .ok here → record view here)
    (h : renderParts s operations = .ok text) :
    ∃ front functions types records, text = front ++ functions.flatten ++ types ++
      records.flatten ∧ List.Forall₂ function views functions ∧
        List.Forall₂ record views records := by
  have heval : (var "operations").eval s = .ok (some (.list (views.map OperationView.toValue))) :=
    congrArg Except.ok hoperations
  obtain ⟨front, _, -, hrest, rfl⟩ := renderParts_append_eq_ok_iff.mp h
  obtain ⟨_, hloops, rfl⟩ := exists_append_of_renderParts hrest
  obtain ⟨_, _, hfunctions, hbehind, rfl⟩ := renderParts_cons_eq_ok_iff.mp hloops
  obtain ⟨types, _, -, hlast, rfl⟩ := renderParts_cons_eq_ok_iff.mp hbehind
  obtain ⟨_, _, hrecords, hnil, rfl⟩ := renderParts_cons_eq_ok_iff.mp hlast
  obtain rfl := Except.ok.inj hnil
  obtain ⟨functions, hpieces, rfl⟩ := exists_pieces_of_forEach heval hfunction hfunctions
  obtain ⟨records, hpieces', rfl⟩ := exists_pieces_of_forEach heval hrecord hrecords
  refine ⟨front ++ ("" ++ "\n" : Text), functions, types, records, ?_, hpieces, hpieces'⟩
  simp only [List.append_assoc, List.append_nil]

/-- **The declarations of a group's file**: a function for every operation, and behind the types of
the optional parameters a record for every operation, both in order. -/
theorem exists_pieces_of_operations {views : List OperationView}
    (hoperations : s.bindings.lookup (Text.ofString "operations") =
      some (.list (views.map OperationView.toValue)))
    (h : renderParts s operations = .ok text) :
    ∃ front functions types records, text = front ++ functions.flatten ++ types ++
      records.flatten ∧ List.Forall₂ IsFunction views functions ∧
        List.Forall₂ IsRecord views records :=
  exists_cut_of_operations hoperations (fun _ _ _ => isFunction_of_renderParts rfl)
    (fun _ _ _ => isRecord_of_renderParts rfl) h

/-! ### The file of a group's actions -/

/-- The value of a constant of a group. -/
def constantValue (group name : Text) : Text := "s/" ++ group ++ "/" ++ name

/-- The declaration of a constant of a group. -/
def constantText (group name : Text) : Text :=
  "export const " ++ name ++ " = '" ++ constantValue group name ++ "'"

/-- The piece of a text with what is declared for an action: a constant for the start, one for the
end, and behind the type of its data the function. -/
def IsAction (group : Text) (view : ActionView) (piece : Text) : Prop :=
  ∃ id stop type rest, view.id.text = .ok id ∧
    piece = "\n" ++ constantText group view.start ++ stop ++ constantText group view.complete ++
      stop ++ type ++ functionHead id ++ rest

/-- The template writes the declaration of a constant, under a name that is a field of the view. -/
theorem renderParts_actionConstant_eq_ok {group : Text} {v : Value} {es : Document.Entries}
    (field name : Text) (haction : s.bindings.lookup (Text.ofString "action") = some v)
    (hv : v.view = .map es) (hname : lookup field es = some (.str name))
    (hgroup : s.bindings.lookup (Text.ofString "group") = some (.str group))
    (h : renderParts s (actionConstant (dot "action" field)) = .ok text) :
    ∃ stop, renderParts s statementEnd = .ok stop ∧ text = constantText group name ++ stop := by
  obtain ⟨_, stop, hconstant, hstop, rfl⟩ := renderParts_append_eq_ok_iff.mp h
  obtain ⟨_, hparts, rfl⟩ := exists_append_of_renderParts hconstant
  obtain ⟨first, _, hfirst, hvalue, rfl⟩ := renderParts_cons_eq_ok_iff.mp hparts
  obtain rfl := renderPart_dot haction hv hname hfirst
  obtain ⟨_, hpath, rfl⟩ := exists_append_of_renderParts hvalue
  obtain ⟨package, _, hpackage, hslash, rfl⟩ := renderParts_cons_eq_ok_iff.mp hpath
  obtain ⟨_, hlast, rfl⟩ := exists_append_of_renderParts hslash
  obtain ⟨second, _, hsecond, hquote, rfl⟩ := renderParts_cons_eq_ok_iff.mp hlast
  obtain rfl := renderPart_dot haction hv hname hsecond
  obtain ⟨_, hnil, rfl⟩ := exists_append_of_renderParts hquote
  obtain rfl := Except.ok.inj hnil
  obtain rfl := eq_of_renderPart_var hgroup hpackage
  refine ⟨stop, hstop, ?_⟩
  simp only [constantText, constantValue, List.append_assoc, List.append_nil]
  rfl

/-- The template writes the constants and the function of an action. -/
theorem isAction_of_renderParts {group : Text} {view : ActionView}
    (haction : s.bindings.lookup (Text.ofString "action") = some view.toValue)
    (hgroup : s.bindings.lookup (Text.ofString "group") = some (.str group))
    (h : renderParts s action = .ok text) : IsAction group view text := by
  obtain ⟨_, _, hfront, hfunction, rfl⟩ := renderParts_append_eq_ok_iff.mp h
  obtain ⟨_, type, hconstants, -, rfl⟩ := renderParts_append_eq_ok_iff.mp hfront
  obtain ⟨_, _, hbegin, hcomplete, rfl⟩ := renderParts_append_eq_ok_iff.mp hconstants
  obtain ⟨_, _, hblank, hstart, rfl⟩ := renderParts_append_eq_ok_iff.mp hbegin
  obtain ⟨_, hnil, rfl⟩ := exists_append_of_renderParts hblank
  obtain rfl := Except.ok.inj hnil
  obtain ⟨stop, hstop, rfl⟩ :=
    renderParts_actionConstant_eq_ok "start" view.start haction rfl rfl hgroup hstart
  obtain ⟨stop', hstop', rfl⟩ :=
    renderParts_actionConstant_eq_ok "complete" view.complete haction rfl rfl hgroup hcomplete
  obtain rfl := Except.ok.inj (hstop.symm.trans hstop')
  -- behind the constants and the type stands the function, under the id of the view
  obtain ⟨_, last, hlast, -, rfl⟩ := renderParts_append_eq_ok_iff.mp hfunction
  obtain ⟨_, close, hclose, -, rfl⟩ := renderParts_append_eq_ok_iff.mp hlast
  obtain ⟨_, answer, hanswer, -, rfl⟩ := renderParts_append_eq_ok_iff.mp hclose
  obtain ⟨_, announce, hhead, -, rfl⟩ := renderParts_append_eq_ok_iff.mp hanswer
  obtain ⟨_, call, hcall, -, rfl⟩ := renderParts_append_eq_ok_iff.mp hhead
  obtain ⟨_, hnamed, rfl⟩ := exists_append_of_renderParts hcall
  obtain ⟨id, _, hid, hopen, rfl⟩ := renderParts_cons_eq_ok_iff.mp hnamed
  obtain ⟨rest, -, rfl⟩ := exists_append_of_renderParts hopen
  obtain ⟨v, hv, hid⟩ := renderPart_value_eq_ok_iff.mp hid
  rw [eval_dot haction rfl] at hv
  obtain rfl : view.id = v := Option.some.inj (Except.ok.inj hv)
  refine ⟨id, stop, type, rest ++ call ++ announce ++ answer ++ close ++ last, hid, ?_⟩
  simp only [functionHead, List.append_assoc, List.append_nil]
  rfl

/-- The import of a group's functions, under the name of the group. -/
def importText (group : Text) : Text := "import * as " ++ group ++ " from '../" ++ group ++ "'"

/-- A file of actions is cut into what stands in front of the import, the import as a line of its
own, and what is written for each of the actions. -/
theorem exists_cut_of_actions {group : Text} {views : List ActionView}
    {piece : ActionView → Text → Prop}
    (hactions : s.bindings.lookup (Text.ofString "actions") =
      some (.list (views.map ActionView.toValue)))
    (hgroup : s.bindings.lookup (Text.ofString "group") = some (.str group))
    (hbody : ∀ view isLast here,
      renderParts (s.bind "action" view.toValue isLast) action = .ok here → piece view here)
    (h : renderParts s actions = .ok text) :
    ∃ front st pieces, renderPart s (.value (var "st")) = .ok st ∧
      text = front ++ "\n" ++ importText group ++ st ++ "\n" ++ pieces.flatten ∧
      List.Forall₂ piece views pieces := by
  have heval : (var "actions").eval s = .ok (some (.list (views.map ActionView.toValue))) :=
    congrArg Except.ok hactions
  obtain ⟨_, _, hhead, hloop, rfl⟩ := renderParts_append_eq_ok_iff.mp h
  obtain ⟨_, _, hfront, hend, rfl⟩ := renderParts_append_eq_ok_iff.mp hhead
  obtain ⟨st, hst, rfl⟩ := renderParts_statement_eq_ok hend
  obtain ⟨reference, _, -, hmodule, rfl⟩ := renderParts_cons_eq_ok_iff.mp hfront
  obtain ⟨_, hnamed, rfl⟩ := exists_append_of_renderParts hmodule
  obtain ⟨_, _, hname, hclose, rfl⟩ := renderParts_cons_eq_ok_iff.mp hnamed
  obtain ⟨_, hgenerated, rfl⟩ := exists_append_of_renderParts hclose
  obtain ⟨_, himport, rfl⟩ := exists_append_of_renderParts hgenerated
  obtain ⟨_, hbinding, rfl⟩ := exists_append_of_renderParts himport
  obtain ⟨_, _, hbound, hfrom, rfl⟩ := renderParts_cons_eq_ok_iff.mp hbinding
  obtain ⟨_, hpath, rfl⟩ := exists_append_of_renderParts hfrom
  obtain ⟨_, _, hfile, hnil, rfl⟩ := renderParts_cons_eq_ok_iff.mp hpath
  obtain rfl := Except.ok.inj hnil
  rw [eq_of_renderPart_var hgroup hname, eq_of_renderPart_var hgroup hbound,
    eq_of_renderPart_var hgroup hfile]
  obtain ⟨_, _, hpieces, hnil, rfl⟩ := renderParts_cons_eq_ok_iff.mp hloop
  obtain rfl := Except.ok.inj hnil
  obtain ⟨pieces, hviews, rfl⟩ := exists_pieces_of_forEach heval hbody hpieces
  refine ⟨reference ++ "/** @module action/" ++ group ++ " */\n" ++
    "// Auto-generated, edits will be overwritten", st, pieces, hst, ?_, hviews⟩
  simp only [importText, List.append_assoc, List.append_nil]
  rfl

/-- **The declarations of a file of actions**: two constants and a function for every action, in
order. -/
theorem exists_pieces_of_actions {group : Text} {views : List ActionView}
    (hactions : s.bindings.lookup (Text.ofString "actions") =
      some (.list (views.map ActionView.toValue)))
    (hgroup : s.bindings.lookup (Text.ofString "group") = some (.str group))
    (h : renderParts s actions = .ok text) :
    ∃ front pieces, text = front ++ pieces.flatten ∧
      List.Forall₂ (IsAction group) views pieces := by
  have hbody (view : ActionView) (isLast : Bool) (here : Text)
      (hhere : renderParts (s.bind "action" view.toValue isLast) action = .ok here) :
      IsAction group view here := by
    have hbound : (s.bind "action" view.toValue isLast).bindings.lookup (Text.ofString "group") =
        some (.str group) := hgroup
    exact isAction_of_renderParts rfl hbound hhere
  obtain ⟨front, st, pieces, -, hcut, hviews⟩ := exists_cut_of_actions hactions hgroup hbody h
  exact ⟨_, pieces, hcut, hviews⟩

/-! ### The file of types -/

/-- What stands in front of the name of a declared type. -/
def typeKeywords : List Text :=
  ["export interface ", "export type ", "export class "].map Text.ofString

/-- The names of the support types. -/
def supportTypeNames : List Text :=
  ["OpenApiSpec", "SecurityDefinition", "CollectionFormat", "HttpMethod", "OperationInfo",
    "OperationSecurity", "OperationParamGroups", "ServiceRequest", "RequestInfo",
    "ResponseOutcome", "ServiceOptions", "OperationRights", "OperationRightsInfo", "Response",
    "FetchResponse", "FetchBody", "ServiceError", "ServiceMeta"].map Text.ofString

/-- The support types have different names. -/
theorem nodup_supportTypeNames : supportTypeNames.Nodup := by
  refine List.Nodup.map (fun _ _ => Text.ofString_inj.mp) ?_
  decide +kernel

/-- A part of the support types declares a type with this name. -/
def HasPart (name : Text) : Prop :=
  ∃ keyword ∈ typeKeywords, ∃ rest, Part.text (keyword ++ name ++ rest) ∈ supportTypes

/-- The support types in rows of parts, each of which begins with the head of a type. -/
def supportTypeRows : List (List Part) :=
  [openApiSpecType, securityDefinitionType, collectionFormatType, operationInfoType,
    operationSecurityType, operationParamGroupsType, serviceRequestType, requestInfoType,
    responseOutcomeType, serviceOptionsType, operationRightsType, operationRightsInfoType,
    responseType, fetchResponseType, fetchBodyType, serviceErrorType, serviceMetaType]

/-- The support types are these rows, one behind the other. -/
theorem supportTypes_eq_flatten : supportTypes = supportTypeRows.flatten := by
  simp only [supportTypes, supportTypeRows, List.flatten_cons, List.flatten_nil, List.append_nil,
    List.append_assoc]

/-- A part whose text is cut in this way declares a type. -/
theorem hasPart_of_mem {row : List Part} {written : String} {more : Text}
    (keyword name rest : String) (hkeyword : Text.ofString keyword ∈ typeKeywords)
    (hrow : row ∈ supportTypeRows) (hpart : Part.text (Text.ofString written ++ more) ∈ row)
    (hcut : written = keyword ++ name ++ rest) : HasPart (Text.ofString name) := by
  refine ⟨Text.ofString keyword, hkeyword, Text.ofString rest ++ more, ?_⟩
  have happend (s t : String) : Text.ofString (s ++ t) = Text.ofString s ++ Text.ofString t := by
    simp [Text.ofString, Text.ofChars]
  rw [hcut, happend, happend] at hpart
  rw [supportTypes_eq_flatten]
  simpa only [List.append_assoc] using List.mem_flatten_of_mem hrow hpart

/-- Every support type has a part that declares it. -/
theorem hasPart_of_mem_supportTypeNames {name : Text} (hname : name ∈ supportTypeNames) :
    HasPart name := by
  have hinterface (row : List Part) (name rest : String) (hrow : row ∈ supportTypeRows)
      (hpart : line (Text.ofString ("export interface " ++ name ++ rest)) ∈ row) :
      HasPart (Text.ofString name) :=
    hasPart_of_mem "export interface " name rest (by decide) hrow hpart rfl
  have htype (row : List Part) (name rest : String) (hrow : row ∈ supportTypeRows)
      (hpart : .text (Text.ofString ("export type " ++ name ++ rest)) ∈ row) :
      HasPart (Text.ofString name) := by
    rw [← List.append_nil (Text.ofString _)] at hpart
    exact hasPart_of_mem "export type " name rest (by decide) hrow hpart rfl
  simp only [supportTypeNames, List.map_cons, List.map_nil, List.mem_cons, List.not_mem_nil,
    or_false] at hname
  rcases hname with rfl | rfl | rfl | rfl | rfl | rfl | rfl | rfl | rfl | rfl | rfl | rfl | rfl |
    rfl | rfl | rfl | rfl | rfl
  · exact hinterface openApiSpecType "OpenApiSpec" " \x7b" (by simp [supportTypeRows])
      List.mem_cons_self
  · exact hinterface securityDefinitionType "SecurityDefinition" " \x7b"
      (by simp [supportTypeRows]) List.mem_cons_self
  · exact htype collectionFormatType "CollectionFormat" " = 'csv'|'ssv'|'tsv'|'pipes'|'multi'"
      (by simp [supportTypeRows]) List.mem_cons_self
  · exact htype collectionFormatType "HttpMethod"
      " = 'get'|'put'|'post'|'delete'|'options'|'head'|'patch'"
      (by simp [supportTypeRows]) (by simp [collectionFormatType, statement])
  · exact hinterface operationInfoType "OperationInfo" " \x7b" (by simp [supportTypeRows])
      List.mem_cons_self
  · exact hinterface operationSecurityType "OperationSecurity" " \x7b" (by simp [supportTypeRows])
      List.mem_cons_self
  · exact hinterface operationParamGroupsType "OperationParamGroups"
      " \x7b" (by simp [supportTypeRows])
      List.mem_cons_self
  · exact hinterface serviceRequestType "ServiceRequest" " \x7b" (by simp [supportTypeRows])
      List.mem_cons_self
  · exact hinterface requestInfoType "RequestInfo" " \x7b" (by simp [supportTypeRows])
      List.mem_cons_self
  · exact hinterface responseOutcomeType "ResponseOutcome" " \x7b" (by simp [supportTypeRows])
      List.mem_cons_self
  · exact hinterface serviceOptionsType "ServiceOptions" " \x7b" (by simp [supportTypeRows])
      List.mem_cons_self
  · exact htype operationRightsType "OperationRights"
      " = \x7b[key: string]: OperationRightsInfo\x7d"
      (by simp [supportTypeRows]) List.mem_cons_self
  · exact hinterface operationRightsInfoType "OperationRightsInfo"
      " \x7b" (by simp [supportTypeRows])
      List.mem_cons_self
  · exact hinterface responseType "Response" "<T> \x7b" (by simp [supportTypeRows])
      List.mem_cons_self
  · exact hinterface fetchResponseType "FetchResponse"
      " extends FetchBody \x7b" (by simp [supportTypeRows])
      List.mem_cons_self
  · exact hinterface fetchBodyType "FetchBody" " \x7b" (by simp [supportTypeRows])
      List.mem_cons_self
  · have hrow : serviceErrorType ∈ supportTypeRows := by simp [supportTypeRows]
    exact hasPart_of_mem "export class " "ServiceError" " extends Error \x7b" (by decide) hrow
      List.mem_cons_self rfl
  · have hpart : line "export interface ServiceMeta \x7b" ∈ serviceMetaType := by
      simp [serviceMetaType]
    exact hinterface serviceMetaType "ServiceMeta" " \x7b" (by simp [supportTypeRows]) hpart

/-- Every support type is declared under its name. -/
theorem exists_keyword_of_mem_supportTypeNames {name : Text} (hname : name ∈ supportTypeNames)
    (h : renderParts s supportTypes = .ok text) :
    ∃ keyword ∈ typeKeywords, keyword ++ name <:+: text := by
  obtain ⟨keyword, hkeyword, rest, hpart⟩ := hasPart_of_mem_supportTypeNames hname
  obtain ⟨here, hhere, hinfix⟩ := exists_infix_of_mem hpart h
  obtain rfl := Except.ok.inj (renderPart_text.symm.trans hhere)
  exact ⟨keyword, hkeyword, (List.prefix_append _ rest).isInfix.trans hinfix⟩

/-- The piece of a text with a declaration. -/
def IsDeclaration (d : Declaration) (piece : Text) : Prop :=
  ∃ comment, ∃ keyword ∈ typeKeywords, ∃ name rest, d.name.text = .ok name ∧
    piece = comment ++ keyword ++ name ++ rest

/-- The template declares a type under its name, as an interface or as another name for a type. -/
theorem isDeclaration_of_renderParts {d : Declaration}
    (hdecl : s.bindings.lookup (Text.ofString "decl") = some d.toValue)
    (h : renderParts s typeDeclaration = .ok text) : IsDeclaration d text := by
  obtain ⟨comment, _, -, hrest, rfl⟩ := renderParts_cons_eq_ok_iff.mp h
  obtain ⟨_, blank, hchoice, -, rfl⟩ := renderParts_cons_eq_ok_iff.mp hrest
  obtain ⟨v, -, hchosen⟩ := renderPart_choice_eq_ok_iff.mp hchoice
  have hname {rest : Text} {parts : List Part}
      (hnamed : renderParts s (.value (dot "decl" "name") :: parts) = .ok rest) :
      ∃ name more, d.name.text = .ok name ∧ rest = name ++ more := by
    obtain ⟨name, more, hname, -, rfl⟩ := renderParts_cons_eq_ok_iff.mp hnamed
    obtain ⟨v, hv, htext⟩ := renderPart_value_eq_ok_iff.mp hname
    rw [eval_dot hdecl rfl] at hv
    obtain rfl : d.name = v := Option.some.inj (Except.ok.inj hv)
    exact ⟨name, more, htext, rfl⟩
  split at hchosen
  · obtain ⟨_, hnamed, rfl⟩ := exists_append_of_renderParts hchosen
    obtain ⟨name, more, hname, rfl⟩ := hname hnamed
    refine ⟨comment, Text.ofString "export type ", by decide, name, more ++ blank, hname, ?_⟩
    simp only [List.append_assoc]
  · obtain ⟨_, hnamed, rfl⟩ := exists_append_of_renderParts hchosen
    obtain ⟨name, more, hname, rfl⟩ := hname hnamed
    refine ⟨comment, Text.ofString "export interface ", by decide, name, more ++ blank, hname,
      ?_⟩
    simp only [List.append_assoc]

/-- **The types of a client** in the language with types: a declaration for every definition that is
declared, in order, and behind them the support types, all in one namespace. -/
theorem exists_pieces_of_types {declarations : List Declaration}
    (htyped : s.bindings.lookup (Text.ofString "typed") = some (.bool true))
    (hdeclarations : s.bindings.lookup (Text.ofString "declarations") =
      some (.list (declarations.map Declaration.toValue)))
    (h : renderParts s types = .ok text) :
    ∃ front pieces support rest, text = front ++ Text.ofString "namespace api \x7b\n" ++
        pieces.flatten ++ support ++ Text.ofString "\x7d\n" ++ rest ∧
      List.Forall₂ IsDeclaration declarations pieces ∧
      renderParts s supportTypes = .ok support := by
  have heval : (var "declarations").eval s =
      .ok (some (.list (declarations.map Declaration.toValue))) :=
    congrArg Except.ok hdeclarations
  obtain ⟨front, _, -, hlast, rfl⟩ := renderParts_append_eq_ok_iff.mp h
  obtain ⟨_, comments, htypes, -, rfl⟩ := renderParts_cons_eq_ok_iff.mp hlast
  obtain ⟨v, hv, hchosen⟩ := renderPart_choice_eq_ok_iff.mp htypes
  obtain rfl := Option.some.inj (htyped.symm.trans (Except.ok.inj hv))
  obtain ⟨_, _, hfirst, hclose, rfl⟩ := renderParts_append_eq_ok_iff.mp hchosen
  obtain ⟨_, support, hopen, hsupport, rfl⟩ := renderParts_append_eq_ok_iff.mp hfirst
  obtain ⟨_, hloop, rfl⟩ := exists_append_of_renderParts hopen
  obtain ⟨_, _, hpieces, hnil, rfl⟩ := renderParts_cons_eq_ok_iff.mp hloop
  obtain rfl := Except.ok.inj hnil
  obtain ⟨blank, hblank, rfl⟩ := exists_append_of_renderParts hclose
  obtain ⟨pieces, hdeclaration, rfl⟩ := exists_pieces_of_forEach heval
    (fun _ _ _ => isDeclaration_of_renderParts rfl) hpieces
  refine ⟨front, pieces, support, blank ++ comments, ?_, hdeclaration, hsupport⟩
  simp only [List.append_assoc, List.append_nil]
  rfl

end ClientScribe.Template
