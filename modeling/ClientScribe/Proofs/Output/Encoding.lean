import ClientScribe.Proofs.Output.Paths
import ClientScribe.Proofs.Template.Marked

/-!
# Clients That Have Bytes

A text has bytes unless there is a half of a pair in it. The fixed texts of the templates have none
(`ownAll_types` and its kin), and indenting adds none, so a half of a pair in a file was taken from
the view that the file is written from, and in the end from the description.

`takenTexts` collects what the files of a client take from their views, without writing the files.
The client can be written as bytes exactly if these texts can (`agree_takenTexts`).
-/

namespace ClientScribe.Template

variable {p : CodePoint → Bool}

/-! ### The fixed texts of the templates -/

/-- A test that all characters pass is passed by all texts of characters. -/
theorem all_ofString (hp : ∀ c, p (.char c) = true) (s : String) :
    (Text.ofString s).all p = true := by
  simp [Text.ofString, Text.ofChars, hp]

/-- What two rows write of their own is what each of them does. -/
theorem ownAll_append (parts more : List Part) :
    ownAll p (parts ++ more) = (ownAll p parts && ownAll p more) := by
  induction parts with
  | nil => rfl
  | cons part parts ih => rw [List.cons_append, ownAll, ownAll, ih, Bool.and_assoc]

/-- The support types are written in characters. -/
theorem ownAll_supportTypes (hp : ∀ c, p (.char c) = true) : ownAll p supportTypes = true := by
  simp only [supportTypes, openApiSpecType, securityDefinitionType, collectionFormatType,
    operationInfoType, operationSecurityType, operationParamGroupsType, serviceRequestType,
    requestInfoType, responseOutcomeType, serviceOptionsType, operationRightsType,
    operationRightsInfoType, responseType, fetchResponseType, fetchBodyType, serviceErrorType,
    serviceMetaType, ownAll, Part.ownAll, ownAll_append, line, statement, statementEnd,
    all_ofString hp, List.all_append, Bool.and_self]

/-- The comments of the client's own types are written in characters. -/
theorem ownAll_ownTypeComments (hp : ∀ c, p (.char c) = true) :
    ownAll p ownTypeComments = true := by
  simp only [ownTypeComments, authorizationComment, serviceErrorComment, requestCallbackComment,
    responseCallbackComment, errorCallbackComment, requestOptionsComment, responseComment, ownAll,
    Part.ownAll, ownAll_append, line, all_ofString hp, List.all_append, Bool.and_self]

/-- The file of types is written in characters, apart from what it takes from its view. -/
theorem ownAll_types (hp : ∀ c, p (.char c) = true) : ownAll p types = true := by
  simp only [types, typesNamespace, typeDeclaration, aliasDeclaration, interfaceDeclaration,
    typeComment, memberComments, describedBy, lineEnd, optional, forEach, generatedLine, ownAll,
    Part.ownAll, ownAll_append, line, statementEnd, ownAll_supportTypes hp,
    ownAll_ownTypeComments hp, all_ofString hp, List.all_append, Bool.and_self]

/-- So is the file of a group of operations. -/
theorem ownAll_operations (hp : ∀ c, p (.char c) = true) : ownAll p operations = true := by
  simp only [operations, typesReference, commaBetween, operationComment, groupEntries,
    parameterGroups, parametersLiteral, operationFunction, optionsInterface, securityLiteral,
    callRecord, describedBy, lineEnd, optional, forEach, generatedLine, ownAll, Part.ownAll,
    ownAll_append, line, statement, statementEnd, all_ofString hp, List.all_append, Bool.and_self]

/-- So is the file of the descriptor. -/
theorem ownAll_descriptor (hp : ∀ c, p (.char c) = true) : ownAll p descriptor = true := by
  simp only [descriptor, optional, generatedLine, ownAll, Part.ownAll, ownAll_append, line,
    statement, statementEnd, all_ofString hp, List.all_append, Bool.and_self]

/-- So is the file of a group's actions. -/
theorem ownAll_actions (hp : ∀ c, p (.char c) = true) : ownAll p actions = true := by
  simp only [actions, action, actionConstant, actionFunction, typesReference, optional, forEach,
    generatedLine, ownAll, Part.ownAll, ownAll_append, line, statement, statementEnd,
    all_ofString hp, List.all_append, Bool.and_self]

end ClientScribe.Template

namespace ClientScribe.Output

open Api (Operation)
open Document (Value)
open Result (Agree)
open Store (Path)
open Template (Part Passes ownAll)

variable {document : Value} {options : Options} {files : List ClientFile}

/-! ### Files and what they take -/

/-- The code points of texts that have bytes. -/
def isWhole (c : CodePoint) : Bool := c.char?.isSome

/-- The texts that a file written from a template takes from its view. -/
def takenFrom (parts : List Part) (view : Value) : Result (List Text) := do
  Template.takenParts (← Template.scopeOf view) parts

/-- Indenting neither adds a half of a pair nor takes one away, so a file has bytes exactly if what
it takes from its view has. -/
theorem agree_written {parts : List Part} (hown : ownAll isWhole parts = true) (view : Value)
    (options : Options) :
    Agree (Passes isWhole) (written parts view options) (takenFrom parts view) := by
  have hunit : options.indent.unit.all isWhole = true := by
    cases options.indent <;> decide
  have hrendered : Agree (Passes isWhole) (Template.render parts view) (takenFrom parts view) :=
    .bind_same _ fun s => Template.agree_takenParts isWhole parts s hown
  exact hrendered.pure_left fun _ _ h => (Template.all_reindent rfl hunit _).trans h

/-- What the file of a group of operations takes from the description. -/
def takenByOperations (document : Value) (options : Options) (group : Text × List Operation) :
    Result (List Text) := do
  let view ← Client.operationsView document group.1 group.2 options
  takenFrom Template.operations view.toValue

/-- What the file of types takes from the description. -/
def takenByTypes (document : Value) (ops : List Operation) (options : Options) :
    Result (List Text) := do
  let view ← (Client.typesView document ops options).result
  takenFrom Template.types view.toValue

/-- What the file of the descriptor takes from the description. -/
def takenByDescriptor (document : Value) (options : Options) : Result (List Text) := do
  let view ← Client.descriptorView document options
  takenFrom Template.descriptor view.toValue

/-- What the files of actions take from the description, if they are asked for. -/
def takenByActions (document : Value) (options : Options) (ops : List Operation) :
    Result (List (List Text)) :=
  if options.redux.isTrue then
    (Api.grouped ops).mapM fun group => do
      let view ← Client.actionsView document group.1 group.2 options
      takenFrom Template.actions view.toValue
  else .ok []

/-- What the files of a client take from the description. -/
def takenTexts (document : Value) (options : Options) : Result (List Text) := do
  let ops ← Api.findOperations document
  let operations ← (Api.grouped ops).mapM (takenByOperations document options)
  let types ← takenByTypes document ops options
  let descriptor ← takenByDescriptor document options
  let actions ← takenByActions document options ops
  return operations.flatten ++ (types ++ descriptor) ++ actions.flatten

/-! ### Clients and what they take -/

/-- A file has bytes exactly if some texts have. -/
abbrev FilePasses (file : ClientFile) (texts : List Text) : Prop :=
  Passes isWhole file.contents texts

/-- The files of a row have bytes exactly if what they take has. -/
theorem all_of_forall₂ {rows : List (List Text)} (h : List.Forall₂ FilePasses files rows) :
    (files.all fun file => file.contents.all isWhole) = rows.flatten.all (·.all isWhole) := by
  induction h with
  | nil => rfl
  | cons h _ ih => rw [List.all_cons, List.flatten_cons, List.all_append, h, ih]

/-- A file has bytes exactly if what it takes from its view has, whatever its path is. -/
theorem agree_file {α : Type} {parts : List Part} (hown : ownAll isWhole parts = true) (path : Path)
    (view : Result α) (toValue : α → Value) :
    Agree FilePasses
      (do let view ← view; return (⟨path, ← written parts (toValue view) options⟩ : ClientFile))
      (do let view ← view; takenFrom parts (toValue view)) :=
  .bind_same _ fun view => (agree_written hown (toValue view) options).pure_left fun _ _ h => h

/-- **Which clients have bytes.** The files of a client have bytes exactly if the texts that they
take from the description have: a half of a pair in a file is one of the description. -/
theorem agree_takenTexts (document : Value) (options : Options) :
    Agree (fun (files : List ClientFile) texts =>
        (files.all fun file => file.contents.all isWhole) = texts.all (·.all isWhole))
      (clientFiles document options).result (takenTexts document options) := by
  have hwhole (c : Char) : isWhole (.char c) = true := rfl
  rw [result_clientFiles]
  refine .bind_same _ fun ops => ?_
  refine (Agree.mapM _ fun group _ => agree_file (Template.ownAll_operations hwhole) _
    (Client.operationsView document group.1 group.2 options) _).bind fun _ _ hoperations => ?_
  have htypes : Agree FilePasses (typesFile document ops options).result
      (takenByTypes document ops options) := by
    simpa [typesFile, takenByTypes] using agree_file (Template.ownAll_types hwhole) _
      (Client.typesView document ops options).result Client.TypesView.toValue
  refine htypes.bind fun _ _ htypes => ?_
  refine (agree_file (Template.ownAll_descriptor hwhole) _
    (Client.descriptorView document options) _).bind fun _ _ hdescriptor => ?_
  have hactions : Agree (List.Forall₂ FilePasses) (actionsFiles document options ops)
      (takenByActions document options ops) := by
    unfold actionsFiles takenByActions
    split
    · exact .mapM _ fun group _ => agree_file (Template.ownAll_actions hwhole) _
        (Client.actionsView document group.1 group.2 options) _
    · exact .ok .nil
  refine hactions.bind fun _ _ hactions => .ok ?_
  simp only [List.all_append, all_of_forall₂ hoperations, all_of_forall₂ hactions, List.all_cons,
    List.all_nil, Bool.and_true, htypes, hdescriptor]

/-- Whether all that the files of a client take from the description has bytes. -/
def takesWhole (document : Value) (options : Options) : Bool :=
  match takenTexts document options with
  | .ok texts => texts.all (·.all isWhole)
  | .error _ => false

/-- This can be told without writing the files. -/
theorem takesWhole_iff (h : (clientFiles document options).result = .ok files) :
    takesWhole document options = true ↔ ∀ file ∈ files, file.contents.utf8?.isSome = true := by
  obtain ⟨texts, htexts, hfiles⟩ := (agree_takenTexts document options).exists_of_eq_ok h
  simp only [takesWhole, htexts, ← hfiles, List.all_eq_true, Text.isSome_utf8?_iff]
  rfl

/-- A client can be made, with paths of a kind and texts that have bytes, if the paths pass the test
for the kind and what the files take has bytes. -/
theorem exists_files_of_test (document : Value) (options : Options) (P : Path → Prop)
    [DecidablePred P]
    (hpaths : (clientFiles document options).result.toOption.any
      (fun files => files.all fun file => decide (P file.path)) = true)
    (hwhole : takesWhole document options = true) :
    ∃ files, (clientFiles document options).result = .ok files ∧
      (∀ file ∈ files, P file.path) ∧ ∀ file ∈ files, file.contents.utf8?.isSome = true := by
  obtain ⟨files, hfiles, htest⟩ := Result.exists_eq_ok_of_any hpaths
  exact ⟨files, hfiles, by simpa using htest, (takesWhole_iff hfiles).mp hwhole⟩

end ClientScribe.Output
