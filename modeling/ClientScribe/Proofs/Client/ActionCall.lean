import ClientScribe.Output.ClientFile
import ClientScribe.Proofs.Client.ParameterBinding

/-!
# What an Action Passes On

An action takes the arguments of its operation's function and passes them on by position. The
signature and the call are made by two walks over the parameters, and a difference between them
would shift the arguments without a complaint. `actionView_calls` says that there is none: one row
of arguments is behind the signature of the function, the signature of the action and the call.

The body of the request is asked for in the signature, in the call, in the comment and in the object
of the request, each time anew; it is in all of them or in none.
-/

namespace ClientScribe.Client

open Api (Operation)
open Document (Value record)
open Output (ClientFile operationsFile)
open Template (WritesGroups functionText interfaceHead reindent)

variable {document : Value} {op : Operation} {options : Options} {typed : Bool} {group text : Text}
  {view : OperationView} {action : ActionView} {parameters : Api.Parameters} {row : ArgumentRow}

/-! ### Signatures -/

/-- The argument of a parameter has a name. -/
theorem argumentName_ne_nil {name argument : Text}
    (h : Identifier.argumentName name = .ok argument) : argument ≠ [] := by
  unfold Identifier.argumentName at h
  cases hwords : Identifier.words (·.satisfies Identifier.isSeparator) name with
  | nil =>
      rw [hwords] at h
      cases h
  | cons word more =>
      rw [hwords] at h
      obtain rfl := Except.ok.inj h
      have hword : word ≠ [] := Identifier.ne_nil_of_mem_words (hwords ▸ List.mem_cons_self)
      unfold Identifier.escapeReserved
      split <;> simp [Identifier.camelCase, hword]

/-- The text of an argument with a name is not empty. -/
theorem Argument.text_ne_nil {a : Argument} (h : a.name ≠ []) : a.text ≠ [] := by
  unfold Argument.text
  split <;> simp [h]

/-- All arguments of an operation have a name. -/
theorem IsRow.name_ne_nil {package : Text} (h : IsRow document op typed package parameters row) :
    ∀ a ∈ row.toList, a.name ≠ [] := by
  intro a ha
  simp only [ArgumentRow.toList, List.mem_append, Option.mem_toList] at ha
  obtain (ha | ha) | ha := ha
  · obtain ⟨target, -, htarget⟩ := Result.exists_of_mem_mapM h.required ha
    have hname := parameterName_of_requiredArgument htarget
    simp only [parameterName, Result.bind_eq_ok_iff] at hname
    obtain ⟨_, -, _, -, hname⟩ := hname
    exact argumentName_ne_nil hname
  · rw [(bodyArgument_eq_ok (h.body a ha)).1]
    decide
  · rw [name_of_optionsArgument (h.optional a ha)]
    decide

/-- The argument with information, behind all others. -/
def infoArgument (typed : Bool) : Argument :=
  ⟨"info", true, if typed then some "any" else none⟩

/-- Behind a signature the information is one more argument. -/
theorem withInfo_intercalate {args : List Argument} (h : ∀ a ∈ args, a.name ≠ []) (typed : Bool) :
    withInfo (Text.intercalate ", " (args.map Argument.text)) typed =
      Text.intercalate ", " ((args ++ [infoArgument typed]).map Argument.text) := by
  have hinfo : (if typed then Text.ofString "info?: any" else Text.ofString "info") =
      (infoArgument typed).text := by
    cases typed <;> rfl
  unfold withInfo
  rw [hinfo, List.map_append]
  cases args with
  | nil => simp [Text.intercalate]
  | cons first more =>
      have htexts : (first :: more).map Argument.text ≠ [] := List.cons_ne_nil _ _
      have hsignature : Text.intercalate ", " ((first :: more).map Argument.text) ≠ [] :=
        Text.intercalate_cons_ne_nil (Argument.text_ne_nil (h first List.mem_cons_self)) _ _
      rw [if_neg (by simpa using hsignature)]
      exact (Text.intercalate_concat htexts ", " (infoArgument typed).text).symm

/-- The signature of an action is that of the function in the package of its file, with one more
argument. -/
theorem actionView_eq_ok (h : actionView document group op options = .ok action) :
    ∃ args names, arguments document op options.typed (group ++ ".") = .ok args ∧
      callArguments document op = .ok names ∧
      action.signature = withInfo (Text.intercalate ", " (args.map Argument.text)) options.typed ∧
      action.callArguments = Text.intercalate ", " names := by
  simp only [actionView, signature, Result.bind_eq_ok_iff, Result.pure_def, Except.ok.injEq] at h
  obtain ⟨_, ⟨args, hargs, rfl⟩, names, hnames, _, -, _, -, rfl⟩ := h
  exact ⟨args, names, hargs, hnames, rfl, rfl⟩

/-- A call passes on the arguments of a row under their names. -/
theorem IsRow.callArguments {package : Text}
    (h : IsRow document op typed package parameters row) :
    callArguments document op = .ok (row.toList.map Argument.name) := by
  rw [h.map_name_toList, Client.callArguments, h.split, Result.ok_bind, h.map_name_required]
  rfl

/-! ### Comments -/

/-- The line of the object of the optional parameters, if there are any. -/
def optionsLine (parameters : Api.Parameters) : List Text :=
  if parameters.optional.isEmpty then []
  else [commentLine ++ "@param \x7bobject\x7d options Optional options"]

/-- The lines of a comment by what they are for. -/
structure CommentParts where
  summary : List Text
  required : List Text
  optional : List Text
  body : Option Text
  returned : Text

/-- The parts are those of the comment of an operation whose parameters are split in this way: the
body is there exactly if the request has one, and under its name. -/
structure IsComment (op : Operation) (parameters : Api.Parameters) (parts : CommentParts) :
    Prop where
  summary : summaryLines op = .ok parts.summary
  required : parameters.required.mapM (parameterLine · true) = .ok parts.required
  optional : parameters.optional.mapM (parameterLine · false) = .ok parts.optional
  hasBody : parts.body.isSome = op.requestBody.isTrue
  body : ∀ line ∈ parts.body, ∃ type, line = commentLine ++ "@param \x7b" ++ type ++ "\x7d body"
  returned : returnLine op = .ok parts.returned

/-- The lines in their order. The object of the optional parameters stands in front of its
fields. -/
def CommentParts.toList (parts : CommentParts) (parameters : Api.Parameters) : List Text :=
  parts.summary ++ parts.required ++ optionsLine parameters ++ parts.optional ++
    parts.body.toList ++ [parts.returned]

/-- The line of the body names its argument. -/
theorem exists_type_of_bodyLine {schema : Value} {line : Text}
    (h : bodyLine op schema = .ok line) :
    ∃ type, line = commentLine ++ "@param \x7b" ++ type ++ "\x7d body" := by
  simp only [bodyLine, Result.bind_eq_ok_iff, Result.pure_def, Except.ok.injEq] at h
  obtain ⟨_, -, _, -, type, -, rfl⟩ := h
  exact ⟨type, rfl⟩

/-- The comment of an operation has these parts. -/
theorem exists_isComment_of_docLines {schema : Value} {lines : List Text}
    (h : docLines op parameters schema = .ok lines) :
    ∃ parts, IsComment op parameters parts ∧ lines = parts.toList parameters := by
  simp only [docLines, ite_eq_iff, Result.bind_eq_ok_iff, Result.pure_def, Except.ok.injEq,
    exists_eq_left'] at h
  obtain ⟨summary, hsummary, required, hrequired, optional, hoptional,
    ⟨hbody, line, hline, returned, hreturned, rfl⟩ | ⟨hbody, returned, hreturned, rfl⟩⟩ := h
  · refine ⟨⟨summary, required, optional, some line, returned⟩, ⟨hsummary, hrequired, hoptional,
      by simp [hbody], ?_, hreturned⟩, rfl⟩
    rintro _ ⟨⟩
    exact exists_type_of_bodyLine hline
  · exact ⟨⟨summary, required, optional, none, returned⟩, ⟨hsummary, hrequired, hoptional,
      by simp [hbody], by rintro _ ⟨⟩, hreturned⟩, rfl⟩

/-! ### The file of a group -/

/-- The function of an operation stands in a file, and in the language with types the type of its
optional parameters does. -/
def IsWrittenIn (view : OperationView) (options : Options) (file : ClientFile) : Prop :=
  ∃ text, file.contents = reindent text options.indent.unit ∧
    (∃ id st type groups, view.id.text = .ok id ∧
      (view.hasParameters = true → WritesGroups view groups) ∧
      functionText view id st type groups <:+: text) ∧
    (options.typed = true → ∀ type ∈ view.optionsType, interfaceHead type <:+: text)

/-- An operation is written in the file of its group. -/
theorem isWrittenIn_operationsFile {ops : List Operation} {file : ClientFile} (hop : op ∈ ops)
    (hview : operationView document op options = .ok view)
    (h : operationsFile document options (group, ops) = .ok file) :
    IsWrittenIn view options file := by
  simp only [operationsFile, operationsView, Output.written, Template.render,
    OperationsView.toValue, Template.scopeOf_record, Result.bind_eq_ok_iff, Result.pure_def,
    Except.ok.injEq] at h
  obtain ⟨_, ⟨hasTypes, -, views, hviews, rfl⟩, _, ⟨text, ⟨scope, rfl, htext⟩, rfl⟩, rfl⟩ := h
  obtain ⟨_, hmem, hsame⟩ := Result.exists_of_mem_of_mapM hviews hop
  obtain rfl := Except.ok.inj (hview.symm.trans hsame)
  exact ⟨text, rfl, Template.exists_infix_of_operations rfl rfl hmem htext⟩

/-- **An action calls its operation with exactly its arguments.** One row of arguments, those of the
required parameters, that of the body if there is one, and that of the optional parameters if there
are any, is behind three texts:

* the signature of the operation's function;
* the call in the action, which gives their names in the same order;
* the signature of the action, which differs in one more argument at its end and in the package in
  front of the type of the optional parameters. That type is the one that the function has, and in
  the language with types the file of the group exports it.

The comment of the function has a line for the body, and the object of the request an entry for it,
exactly if there is one. -/
theorem actionView_calls (hview : operationView document op options = .ok view)
    (haction : actionView document group op options = .ok action) :
    ∃ parameters required, ∃ args : List Argument,
      Api.partitioned document op.parameters = .ok parameters ∧
      parameters.required.mapM parameterName = .ok required ∧
      args.map Argument.name = required ++ bodyName op ++ optionsName parameters ∧
      view.signature = Text.intercalate ", " (args.map Argument.text) ∧
      action.callArguments = Text.intercalate ", " (args.map Argument.name) ∧
      action.signature = Text.intercalate ", " ((args.map (Argument.inPackage (group ++ ".")) ++
        [infoArgument options.typed]).map Argument.text) ∧
      args.filter Argument.optional = (view.optionsType.toList.map fun type =>
        ⟨"options", true, if options.typed then some type.name else none⟩) ∧
      (∃ parts, IsComment op parameters parts ∧ view.docLines = parts.toList parameters) ∧
      (view.hasBody = op.requestBody.isTrue ∧ (view.hasBody = true → view.hasParameters = true)) ∧
      ∀ ops file, op ∈ ops → operationsFile document options (group, ops) = .ok file →
        IsWrittenIn view options file := by
  obtain ⟨split, schema, args, hparts⟩ := exists_isView hview
  obtain ⟨parameters, row, hrow, rfl⟩ := arguments_eq_ok_iff.mp hparts.arguments
  obtain rfl := Except.ok.inj (hparts.split.symm.trans hrow.split)
  have htype := hparts.optionsType
  obtain ⟨args', names, hargs', hnames, haction, hcall⟩ := actionView_eq_ok haction
  obtain rfl := Except.ok.inj (hrow.callArguments.symm.trans hnames)
  have hpackaged := arguments_eq_ok_iff.mpr
    ⟨split, _, hrow.inPackage htype (group ++ "."), rfl⟩
  obtain rfl := Except.ok.inj (hargs'.symm.trans hpackaged)
  refine ⟨split, _, row.toList, hparts.split, hrow.map_name_required, hrow.map_name_toList,
    hparts.signature, hcall, ?_, hrow.filter_optional_toList htype,
    exists_isComment_of_docLines hparts.docLines, ⟨hparts.hasBody, ?_⟩,
    fun _ _ hop => isWrittenIn_operationsFile hop hview⟩
  · rw [haction, withInfo_intercalate (hrow.inPackage htype _).name_ne_nil, hrow.toList_inPackage]
  · intro hhasBody
    rw [hparts.hasParameters, hhasBody, Bool.or_true]

/-- An operation with a body besides required and optional parameters. -/
def postedOperation : Operation :=
  { datedOperation with
    method := "post"
    requestBody := record [("content", record [("application/json", record [
      ("schema", record [("type", .str "string")])])])] }

/-- Where no other unit of indentation is asked for, the head of a function that is written in a
file stands there as it is. -/
theorem IsWrittenIn.head {file : ClientFile} {id : Text} (h : IsWrittenIn view options file)
    (hunit : options.indent.unit = Template.step) (hid : view.id.text = .ok id) :
    ("export function " ++ id ++ "(" ++ view.signature ++ ")" : Text) <:+: file.contents := by
  obtain ⟨text, hcontents, ⟨id', st, type, groups, hid', -, hfunction⟩, -⟩ := h
  obtain rfl := Except.ok.inj (hid.symm.trans hid')
  rw [hcontents, hunit, Template.reindent_step]
  refine List.IsInfix.trans ⟨Template.commentText view.docLines, view.returnSignature ++
    " \x7b" ++ "\n" ++ Template.objectText view st type groups, ?_⟩ hfunction
  simp only [functionText, List.append_assoc]

/-- The action of the operation passes on all four arguments, in their order, and in the file of the
operation stands its function with these arguments. -/
theorem actionView_postedOperation : ∃ view action file, ∃ args : List Argument,
    operationView datedDocument postedOperation (.usual "out") = .ok view ∧
      actionView datedDocument (Text.ofString "visits") postedOperation (.usual "out") =
        .ok action ∧
      args.map Argument.name = ["id", "xTags", "body", "options"].map Text.ofString ∧
      action.callArguments = Text.intercalate ", " (args.map Argument.name) ∧
      action.signature = "id: string, xTags: string[], body: string, options?: " ++
        "visits.ListVisitsOptions, info?: any" ∧
      view.hasBody = true ∧
      operationsFile datedDocument (.usual "out") ("visits", [postedOperation]) = .ok file ∧
      ("export function " ++ "listVisits" ++ "(" ++
        Text.intercalate ", " (args.map Argument.text) ++ ")" : Text) <:+: file.contents := by
  have hview : operationView datedDocument postedOperation (.usual "out") = .ok _ := rfl
  have haction : actionView datedDocument (Text.ofString "visits") postedOperation
      (.usual "out") = .ok _ := rfl
  obtain ⟨file, hfile⟩ := Result.exists_eq_ok_of_isOk (x := operationsFile datedDocument
    (.usual "out") ("visits", [postedOperation])) (by decide +kernel)
  obtain ⟨parameters, required, args, hsplit, hrequired, hnames, hsignature, hcall, -, -, -, hbody,
    hwritten⟩ := actionView_calls hview haction
  obtain rfl := Except.ok.inj hsplit
  obtain rfl := Except.ok.inj hrequired
  have hid : (Value.str "listVisits").text = .ok "listVisits" := rfl
  have hhead := (hwritten _ file List.mem_cons_self hfile).head rfl hid
  exact ⟨_, _, file, args, hview, haction, hnames, hcall, by decide +kernel, hbody.1, hfile,
    hsignature ▸ hhead⟩

end ClientScribe.Client
