import ClientScribe.Proofs.Client.Untyped
import ClientScribe.Proofs.Output.Locality
import ClientScribe.Proofs.Template.Untyped

/-!
# A Client Without Types

Two runs with options that differ in the language only make two clients of one description. Where
the one with types can be made, so can the one without (`clientFiles_untyped`): it has the same
files, one by one, at the same places up to the extension, and each of them says what its
counterpart says with something left out. What is left out is known where it matters:

* the view of every operation is the same but for the signature, which is left with the names of
  the arguments, and for the type of the result, of which nothing is left;
* the file of types loses the namespace of the declared types and nothing else.
-/

namespace ClientScribe.Output

open Api (Operation)
open Document (Value record)
open Store (Path)
open Template (BoundApart NamedApart RecordsApart ViewsApart areErasable)

variable {document : Value} {options : Options} {ops members : List Operation} {group : Text}
  {files : List ClientFile} {file : ClientFile} {v v' : Value} {parts : List Template.Part}
  {contents : Text}

/-! ### Views -/

/-- The view of an operation, with some of its signature and none of the type of its result. -/
theorem viewsApart_operationView {view : Client.OperationView} {left : Text}
    (h : left.Sublist view.signature) : ViewsApart view.toValue
      ({ view with signature := left, returnSignature := [] } : Client.OperationView).toValue := by
  refine ⟨_, _, rfl, rfl, ?_⟩
  exact .cons (.same (by decide) _) <| .cons (.same (by decide) _) <|
    .cons (.left (by decide) h) <| .cons (.left (by decide) (List.nil_sublist _)) <|
    .cons (.same (by decide) _) <| .cons (.same (by decide) _) <| .cons (.same (by decide) _) <|
    .cons (.same (by decide) _) <| .cons (.same (by decide) _) <| .cons (.same (by decide) _) .nil

/-- The view of an action, with some of its signature. -/
theorem viewsApart_actionView {view : Client.ActionView} {left : Text}
    (h : left.Sublist view.signature) :
    ViewsApart view.toValue ({ view with signature := left } : Client.ActionView).toValue := by
  refine ⟨_, _, rfl, rfl, ?_⟩
  exact .cons (.same (by decide) _) <| .cons (.same (by decide) _) <|
    .cons (.same (by decide) _) <| .cons (.left (by decide) h) <| .cons (.same (by decide) _) <|
    .cons (.same (by decide) _) .nil

/-- What goes into the file of a group of operations. -/
theorem operationsView_untyped {view : Client.OperationsView}
    (h : Client.operationsView document group members { options with language := .ts } =
      .ok view) :
    ∃ view', Client.operationsView document group members { options with language := .js } =
      .ok view' ∧ RecordsApart BoundApart view.toValue view'.toValue := by
  simp only [Client.operationsView, Result.bind_eq_ok_iff, Result.pure_def, Except.ok.injEq] at h
  obtain ⟨hasTypes, htypes, views, hviews, rfl⟩ := h
  have hstep (op : Operation) (view : Client.OperationView)
      (hview : Client.operationView document op { options with language := .ts } = .ok view) :
      ∃ view', Client.operationView document op { options with language := .js } = .ok view' ∧
        ViewsApart view.toValue view'.toValue := by
    obtain ⟨args, -, -, hsignature, hview'⟩ := Client.operationView_untyped hview
    refine ⟨_, hview', viewsApart_operationView ?_⟩
    rw [hsignature]
    exact Client.names_sublist_signature args
  obtain ⟨views', hviews', hapart⟩ := Result.exists_mapM hstep hviews
  refine ⟨⟨group, false, hasTypes, options.statementEnd, views'⟩, ?_, _, _, rfl, rfl, ?_⟩
  · rw [Client.operationsView, htypes, Result.ok_bind, hviews']
    rfl
  refine .cons (.same (by decide) _) <| .cons (.language (by decide) _) <|
    .cons (.same (by decide) _) <| .cons (.same (by decide) _) <|
    .cons (.views (by decide) ?_) .nil
  exact List.forall₂_map_left_iff.mpr (List.forall₂_map_right_iff.mpr hapart)

/-- What goes into the file of a group's actions. -/
theorem actionsView_untyped {view : Client.ActionsView}
    (h : Client.actionsView document group members { options with language := .ts } = .ok view) :
    ∃ view', Client.actionsView document group members { options with language := .js } =
      .ok view' ∧ RecordsApart BoundApart view.toValue view'.toValue := by
  simp only [Client.actionsView, Result.bind_eq_ok_iff, Result.pure_def, Except.ok.injEq] at h
  obtain ⟨hasTypes, htypes, views, hviews, rfl⟩ := h
  have hstep (op : Operation) (view : Client.ActionView)
      (hview : Client.actionView document group op { options with language := .ts } = .ok view) :
      ∃ view', Client.actionView document group op { options with language := .js } = .ok view' ∧
        ViewsApart view.toValue view'.toValue := by
    obtain ⟨left, hleft, hview'⟩ := Client.actionView_untyped hview
    exact ⟨_, hview', viewsApart_actionView hleft⟩
  obtain ⟨views', hviews', hapart⟩ := Result.exists_mapM hstep hviews
  refine ⟨⟨group, false, hasTypes, options.statementEnd, views'⟩, ?_, _, _, rfl, rfl, ?_⟩
  · rw [Client.actionsView, htypes, Result.ok_bind, hviews']
    rfl
  refine .cons (.same (by decide) _) <| .cons (.language (by decide) _) <|
    .cons (.same (by decide) _) <| .cons (.same (by decide) _) <|
    .cons (.views (by decide) ?_) .nil
  exact List.forall₂_map_left_iff.mpr (List.forall₂_map_right_iff.mpr hapart)

/-- What goes into the file of the descriptor. -/
theorem descriptorView_untyped {view : Client.DescriptorView}
    (h : Client.descriptorView document { options with language := .ts } = .ok view) :
    ∃ view', Client.descriptorView document { options with language := .js } = .ok view' ∧
      RecordsApart BoundApart view.toValue view'.toValue := by
  simp only [Client.descriptorView, Result.bind_eq_ok_iff, Result.pure_def, Except.ok.injEq] at h
  obtain ⟨literal, hliteral, v, hv, rfl⟩ := h
  refine ⟨⟨false, options.statementEnd, Client.singleQuoted v⟩, ?_, _, _, rfl, rfl, ?_⟩
  · rw [Client.descriptorView, hliteral, Result.ok_bind, hv]
    rfl
  exact .cons (.language (by decide) _) <| .cons (.same (by decide) _) <|
    .cons (.same (by decide) _) .nil

/-! ### Files -/

/-- A file in the two languages: at one place up to the extension, and with one text of which
something may be left out, indented as the options say. -/
structure FileApart (options : Options) (file file' : ClientFile) : Prop where
  path : ∃ (steps : List Text) (name : Text),
    file.path = options.outDir.beneath (steps ++ [name ++ ".ts"]) ∧
      file'.path = options.outDir.beneath (steps ++ [name ++ ".js"])
  contents : ∃ text text', file.contents = Template.reindent text options.indent.unit ∧
    file'.contents = Template.reindent text' options.indent.unit ∧ text'.Sublist text

/-- Files with one name in one directory, written from views of the two languages. -/
theorem exists_fileApart (steps : List Text) (name : Text) {path path' : Path}
    (hviews : RecordsApart BoundApart v v') (hparts : areErasable parts = true)
    (hpath : path =
      options.outDir.beneath (steps ++ [fileName name { options with language := .ts }]))
    (hpath' : path' =
      options.outDir.beneath (steps ++ [fileName name { options with language := .js }]))
    (h : written parts v { options with language := .ts } = .ok contents) :
    ∃ contents', written parts v' { options with language := .js } = .ok contents' ∧
      FileApart options ⟨path, contents⟩ ⟨path', contents'⟩ := by
  simp only [written, Result.bind_eq_ok_iff, Result.pure_def, Except.ok.injEq] at h ⊢
  obtain ⟨text, htext, rfl⟩ := h
  obtain ⟨text', htext', hleft⟩ := Template.exists_render hviews hparts htext
  refine ⟨_, ⟨text', htext', rfl⟩, ⟨steps, name, ?_, ?_⟩, text, text', rfl, rfl, hleft⟩
  · rw [hpath, fileName, List.append_assoc]
    rfl
  · rw [hpath', fileName, List.append_assoc]
    rfl

/-- The file of a group of operations. -/
theorem operationsFile_untyped {pair : Text × List Operation}
    (h : operationsFile document { options with language := .ts } pair = .ok file) :
    ∃ file', operationsFile document { options with language := .js } pair = .ok file' ∧
      FileApart options file file' := by
  simp only [operationsFile, Result.bind_eq_ok_iff, Result.pure_def, Except.ok.injEq] at h
  obtain ⟨view, hview, contents, hcontents, rfl⟩ := h
  obtain ⟨view', hview', hviews⟩ := operationsView_untyped hview
  obtain ⟨contents', hcontents', hapart⟩ :=
    exists_fileApart [] pair.1 hviews Template.areErasable_operations rfl rfl hcontents
  exact ⟨_, by rw [operationsFile, hview', Result.ok_bind, hcontents']; rfl, hapart⟩

/-- The file of a group's actions. -/
theorem actionsFile_untyped {pair : Text × List Operation}
    (h : actionsFile document { options with language := .ts } pair = .ok file) :
    ∃ file', actionsFile document { options with language := .js } pair = .ok file' ∧
      FileApart options file file' := by
  simp only [actionsFile, Result.bind_eq_ok_iff, Result.pure_def, Except.ok.injEq] at h
  obtain ⟨view, hview, contents, hcontents, rfl⟩ := h
  obtain ⟨view', hview', hviews⟩ := actionsView_untyped hview
  obtain ⟨contents', hcontents', hapart⟩ := exists_fileApart ["action"] pair.1 hviews
    Template.areErasable_actions (Path.beneath_beneath _ _ _) (Path.beneath_beneath _ _ _) hcontents
  exact ⟨_, by rw [actionsFile, hview', Result.ok_bind, hcontents']; rfl, hapart⟩

/-- The file of the descriptor. -/
theorem descriptorFile_untyped
    (h : descriptorFile document { options with language := .ts } = .ok file) :
    ∃ file', descriptorFile document { options with language := .js } = .ok file' ∧
      FileApart options file file' := by
  simp only [descriptorFile, Result.bind_eq_ok_iff, Result.pure_def, Except.ok.injEq] at h
  obtain ⟨view, hview, contents, hcontents, rfl⟩ := h
  obtain ⟨view', hview', hviews⟩ := descriptorView_untyped hview
  obtain ⟨contents', hcontents', hapart⟩ := exists_fileApart ["gateway"] "spec" hviews
    Template.areErasable_descriptor (Path.beneath_beneath _ _ _) (Path.beneath_beneath _ _ _)
    hcontents
  exact ⟨_, by rw [descriptorFile, hview', Result.ok_bind, hcontents']; rfl, hapart⟩

/-! ### The file of types -/

/-- The file of types in the two languages: what stands in front of the namespace and what stands
behind it is in both, and the namespace, with the empty line behind it, in the one with types
only. -/
def LosesNamespace (document : Value) (ops : List Operation) (options : Options)
    (types types' : ClientFile) : Prop :=
  ∃ view front body behind,
    (Client.typesView document ops { options with language := .ts }).result = .ok view ∧
      written Template.typesFront view.toValue options = .ok front ∧
      written Template.namespaceBody view.toValue options = .ok body ∧
      written Template.typesComments view.toValue options = .ok behind ∧
      types.contents = front ++ ("namespace api \x7b\n" ++ body ++ "\x7d\n\n") ++ behind ∧
      types'.contents = front ++ behind

/-- What goes into the file of types. -/
theorem typesView_untyped {view : Client.TypesView}
    (h : (Client.typesView document ops { options with language := .ts }).result = .ok view) :
    view.typed = true ∧ (Client.typesView document ops { options with language := .js }).result =
      .ok { view with typed := false } := by
  simp only [Client.typesView, Logged.result_bind, Logged.result_pure, Result.bind_eq_ok_iff,
    Except.ok.injEq] at h
  obtain ⟨defs, hdefs, declared, hdeclared, rfl⟩ := h
  refine ⟨rfl, ?_⟩
  simp only [Client.typesView, Logged.result_bind, Logged.result_pure, hdefs, hdeclared,
    Result.ok_bind]
  rfl

/-- Its fields in the two languages. -/
theorem namedApart_typesView (statementEnd declared : Value) : NamedApart BoundApart
    [("typed", .bool true), ("st", statementEnd), ("declarations", declared)]
    [("typed", .bool false), ("st", statementEnd), ("declarations", declared)] :=
  .cons (.language (by decide) _) <| .cons (.same (by decide) _) <|
    .cons (.same (by decide) _) .nil

/-- What is written for a view, from the row of its fields. -/
theorem written_record_eq_ok_iff {fields : List (Text × Value)} :
    written parts (record fields) options = .ok contents ↔
      ∃ text, Template.renderParts ⟨fields, none⟩ parts = .ok text ∧
        Template.reindent text options.indent.unit = contents := by
  simp only [written, Template.render, Template.scopeOf_record, Result.ok_bind,
    Result.bind_eq_ok_iff, Result.pure_def, Except.ok.injEq]

/-- The braces of the namespace stand on lines of their own, between other lines. -/
theorem reindent_namespace {front body : Text} (hfront : front.getLast? = some (.char '\n'))
    (hbody : body.getLast? = some (.char '\n')) (behind unit : Text) :
    Template.reindent (front ++ ("namespace api \x7b\n" ++ body ++ "\x7d\n\n" ++ behind)) unit =
      Template.reindent front unit ++
        ("namespace api \x7b\n" ++ Template.reindent body unit ++ "\x7d\n\n") ++
          Template.reindent behind unit := by
  have hopened : Template.reindent "namespace api \x7b\n" unit = "namespace api \x7b\n" := by
    unfold Template.reindent
    split <;> rfl
  have hclosed : Template.reindent "\x7d\n\n" unit = "\x7d\n\n" := by
    unfold Template.reindent
    split <;> rfl
  rw [Template.reindent_append_of_newline hfront, List.append_assoc, List.append_assoc,
    Template.reindent_append_of_newline rfl, Template.reindent_append_of_newline hbody,
    Template.reindent_append_of_newline rfl, hopened, hclosed]
  simp only [List.append_assoc]

/-- The file of types. -/
theorem typesFile_untyped
    (h : (typesFile document ops { options with language := .ts }).result = .ok file) :
    ∃ file', (typesFile document ops { options with language := .js }).result = .ok file' ∧
      FileApart options file file' ∧ LosesNamespace document ops options file file' := by
  simp only [typesFile, Logged.result_bind, Logged.result_liftM, Logged.result_pure,
    Result.bind_eq_ok_iff, Except.ok.injEq] at h ⊢
  obtain ⟨view, hview, contents, hcontents, rfl⟩ := h
  obtain ⟨htyped, hview'⟩ := typesView_untyped hview
  obtain ⟨typed, statementEnd, declared⟩ := view
  obtain rfl : typed = true := htyped
  have hviews := namedApart_typesView (.str statementEnd)
    (.list (declared.map Client.Declaration.toValue))
  obtain ⟨contents', hcontents', hapart⟩ := exists_fileApart [] "types" ⟨_, _, rfl, rfl, hviews⟩
    Template.areErasable_types rfl rfl hcontents
  refine ⟨_, ⟨_, hview', contents', hcontents', rfl⟩, hapart, ?_⟩
  -- both texts are those of the rows in front of the namespace, in it and behind it
  obtain ⟨text, htext, rfl⟩ := written_record_eq_ok_iff.mp hcontents
  obtain ⟨text', htext', rfl⟩ := written_record_eq_ok_iff.mp hcontents'
  have hscopes : Template.LanguageApart ⟨_, none⟩ ⟨_, none⟩ := ⟨hviews, rfl⟩
  obtain ⟨front, block, behind, hfront, hblock, hbehind, rfl, huntyped⟩ :=
    Template.renderParts_types hscopes rfl htext
  obtain rfl := Except.ok.inj (htext'.symm.trans huntyped)
  obtain ⟨body, hbody, rfl⟩ := Template.exists_body_of_typesNamespace hblock
  have hnewline := Template.getLast?_of_typesFront hfront
  exact ⟨_, _, _, _, hview, written_record_eq_ok_iff.mpr ⟨front, hfront, rfl⟩,
    written_record_eq_ok_iff.mpr ⟨body, hbody, rfl⟩,
    written_record_eq_ok_iff.mpr ⟨behind, hbehind, rfl⟩,
    reindent_namespace hnewline (Template.getLast?_of_namespaceBody hbody) behind _,
    Template.reindent_append_of_newline hnewline behind _⟩

/-! ### A whole client -/

/-- Every operation of a client has a view. -/
theorem exists_operationView_of_mem (h : (clientFiles document options).result = .ok files)
    (hops : Api.findOperations document = .ok ops) {op : Operation} (hop : op ∈ ops) :
    ∃ view, Client.operationView document op options = .ok view := by
  obtain ⟨ops', hops', hoperations, -⟩ := exists_files h
  obtain rfl := Except.ok.inj (hops.symm.trans hops')
  obtain ⟨file, -, hfile⟩ := hoperations op hop
  simp only [operationsFile, Client.operationsView, Result.bind_eq_ok_iff] at hfile
  obtain ⟨_, ⟨_, -, views, hviews, -⟩, -⟩ := hfile
  obtain ⟨view, -, hview⟩ :=
    Result.exists_of_mem_of_mapM hviews (List.mem_filter.mpr ⟨hop, beq_self_eq_true _⟩)
  exact ⟨view, hview⟩

/-- The file of types stands where it is looked for. -/
theorem typesFile?_of_clientFiles (h : (clientFiles document options).result = .ok files)
    (hops : Api.findOperations document = .ok ops)
    (htypes : (typesFile document ops options).result = .ok file) :
    typesFile? ops files = some file := by
  obtain ⟨ops', hops', -, -, types, hplace, hmade⟩ := exists_files h
  obtain rfl := Except.ok.inj (hops.symm.trans hops')
  obtain rfl := Except.ok.inj (htypes.symm.trans hmade)
  exact hplace

/-- **A client without types.** Where the client of a description can be made with types, it can be
made without them.

* The files are the same in number and order, at the same places up to the extension, and the text
  of each is that of its counterpart with something left out.
* The view of every operation is the same but for two fields: the signature is a row of arguments,
  each with its type, and is left with their names; nothing is left of the type of the result.
* The file of types loses the namespace with the empty line behind it, and nothing else. -/
theorem clientFiles_untyped
    (h : (clientFiles document { options with language := .ts }).result = .ok files) :
    ∃ ops files', Api.findOperations document = .ok ops ∧
      (clientFiles document { options with language := .js }).result = .ok files' ∧
      List.Forall₂ (FileApart options) files files' ∧
      (∀ op ∈ ops, ∃ view args,
        Client.operationView document op { options with language := .ts } = .ok view ∧
          Client.arguments document op true [] = .ok args ∧
          (∀ a ∈ args, a.type.isSome = true) ∧
          view.signature = Text.intercalate ", " (args.map Client.Argument.text) ∧
          Client.operationView document op { options with language := .js } = .ok { view with
            signature := Text.intercalate ", " (args.map Client.Argument.name)
            returnSignature := [] }) ∧
      ∃ types types', typesFile? ops files = some types ∧ typesFile? ops files' = some types' ∧
        LosesNamespace document ops options types types' := by
  obtain ⟨ops, operations, types, descriptor, actions, hops, hoperations, htypes, hdescriptor,
    hactions, hfiles⟩ := result_clientFiles_eq_ok_iff.mp h
  obtain ⟨operations', hoperations', hoperationsApart⟩ :=
    Result.exists_mapM (fun _ _ hfile => operationsFile_untyped hfile) hoperations
  obtain ⟨types', htypes', htypesApart, hloses⟩ := typesFile_untyped htypes
  obtain ⟨descriptor', hdescriptor', hdescriptorApart⟩ := descriptorFile_untyped hdescriptor
  obtain ⟨actions', hactions', hactionsApart⟩ : ∃ actions',
      (if options.redux.isTrue then
          (Api.grouped ops).mapM (actionsFile document { options with language := .js })
        else .ok []) = .ok actions' ∧ List.Forall₂ (FileApart options) actions actions' := by
    split at hactions
    · next hredux =>
      rw [if_pos hredux]
      exact Result.exists_mapM (fun _ _ hfile => actionsFile_untyped hfile) hactions
    · next hredux =>
      obtain rfl := Except.ok.inj hactions
      exact ⟨[], if_neg hredux, .nil⟩
  have h' := result_clientFiles_eq_ok_iff.mpr ⟨ops, operations', types', descriptor', actions',
    hops, hoperations', htypes', hdescriptor', hactions', rfl⟩
  refine ⟨ops, _, hops, h', ?_, fun op hop => ?_, types, types',
    typesFile?_of_clientFiles h hops htypes, typesFile?_of_clientFiles h' hops htypes', hloses⟩
  · rw [← hfiles]
    exact (FilesAgree.intro hoperationsApart htypesApart hdescriptorApart hactionsApart).forall₂
  · obtain ⟨view, hview⟩ := exists_operationView_of_mem h hops hop
    obtain ⟨args, hargs, htyped, hsignature, hview'⟩ := Client.operationView_untyped hview
    exact ⟨view, args, hview, hargs, htyped, hsignature, hview'⟩

/-- A required and an optional parameter. -/
def findParameters : List Value :=
  [record [("name", .str "petId"), ("in", .str "query"), ("required", .bool true),
      ("type", .str "integer")],
    record [("name", .str "color"), ("in", .str "query"), ("type", .str "string")]]

/-- A description with one operation that has these parameters. -/
def findDocument : Value :=
  record [("paths", record [("/pet", record [("get", record [
    ("operationId", .str "findPet"), ("parameters", .list findParameters)])])])]

/-- The client that finds a pet: in both languages the function takes a pet's id and options. -/
theorem clientFiles_untyped_findPet :
    ∃ (op : Operation) (files files' : List ClientFile) (view : Client.OperationView),
    Api.findOperations findDocument = .ok [op] ∧
      (clientFiles findDocument { Options.usual "out" with language := .ts }).result = .ok files ∧
      (clientFiles findDocument { Options.usual "out" with language := .js }).result = .ok files' ∧
      List.Forall₂ (FileApart (.usual "out")) files files' ∧
      view.signature = "petId: number, options?: FindPetOptions" ∧
      Client.operationView findDocument op { Options.usual "out" with language := .js } =
        .ok { view with signature := "petId, options", returnSignature := [] } := by
  have hops : Api.findOperations findDocument = .ok [_] := rfl
  obtain ⟨files, hfiles⟩ := Result.exists_eq_ok_of_isOk
    (x := (clientFiles findDocument { Options.usual "out" with language := .ts }).result)
    (by decide +kernel)
  obtain ⟨ops, files', hops', hfiles', hapart, hviews, -⟩ := clientFiles_untyped hfiles
  obtain rfl := Except.ok.inj (hops.symm.trans hops')
  obtain ⟨view, args, -, hargs, -, hsignature, hview'⟩ := hviews _ List.mem_cons_self
  obtain rfl : args = [⟨"petId", false, some "number"⟩, ⟨"options", true, some "FindPetOptions"⟩] :=
    Except.ok.inj (hargs.symm.trans rfl)
  exact ⟨_, files, files', view, hops, hfiles, hfiles', hapart, hsignature, hview'⟩

end ClientScribe.Output
