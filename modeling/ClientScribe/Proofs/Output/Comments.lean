import ClientScribe.Proofs.Client.DeclarationComment
import ClientScribe.Proofs.Output.Confinement
import ClientScribe.Proofs.Template.OperationComments

/-!
# Document Text in the Comments of a Client

Much of a client's text is taken from the document, and some of it stands in comments. It is written
there as it is: nothing keeps the end of a comment out of a comment. So the comments of a file are
all closed by its template exactly if no text of the document that stands in one has the end of a
comment in it.

* `marked`: a file with marks on what was taken from the document;
* `isSealed_files_iff`: the condition for the operations files and for the file of types;
* `exists_not_isSealed`: the description of a response ends the comment of a function and goes on as
  code.
-/

namespace ClientScribe.Output

open Api (Operation)
open Client (OperationText DefinitionText)
open Document (Value record)
open Result (Agree)
open Template (Part Marked Standing Brings Marks isSealed)
open Text (endsComment)

variable {document view : Value} {options : Options} {files : List ClientFile} {file : ClientFile}
  {ops : List Operation} {parts : List Part} {m : Marked} {text : Text}

/-- The text of a template for a view with marks, indented as the options say. -/
def marked (parts : List Part) (view : Value) (options : Options) : Result Marked := do
  return (← Template.markParts (← Template.scopeOf view) parts).reindent options.indent.unit

/-- What is written is that text without its marks. -/
theorem agree_marked (parts : List Part) (view : Value) (options : Options) :
    Agree Marks (written parts view options) (marked parts view options) := by
  have hwritten : written parts view options = (do
      let scope ← Template.scopeOf view
      let text ← Template.renderParts scope parts
      return Template.reindent text options.indent.unit) := by
    simp only [written, Template.render, bind_assoc]
  rw [hwritten, marked]
  refine .bind_same _ fun scope => (Template.agree_markParts parts scope).bind fun text m h => ?_
  exact .ok (by rw [Marks, Template.plain_reindent, h])

/-- A file has its comments sealed exactly if its template does not end one too early. -/
theorem isSealed_marked_iff {early : Prop}
    (hbrings : ∀ s, Template.scopeOf view = .ok s → Brings s (· = .code) parts early (· = .code))
    (h : marked parts view options = .ok m) : isSealed false m = true ↔ ¬early := by
  simp only [marked, Result.bind_eq_ok_iff, Result.pure_def, Except.ok.injEq] at h
  obtain ⟨s, hs, plain, hplain, rfl⟩ := h
  obtain ⟨hearly, hbrought⟩ := hbrings s hs plain hplain .code rfl
  have hsealed : isSealed false (plain.reindent options.indent.unit) =
      (Standing.code.run plain).isOutside :=
    (Template.isSealed_reindent plain options.indent).trans
      (Standing.seals_eq_isOutside plain .code)
  rw [hsealed]
  by_cases h : early
  · simp [hearly h, h, Standing.isOutside]
  · simp [hbrought h, h, Standing.isOutside]

/-! ### The files with comments -/

/-- A group has a plain name. -/
theorem isPlainName_of_mem_grouped {group : Text} {members : List Operation}
    (hops : Api.findOperations document = .ok ops) (h : (group, members) ∈ Api.grouped ops) :
    Identifier.IsPlainName group := by
  have hgroup := List.mem_map_of_mem (f := Prod.fst) h
  rw [Api.map_fst_grouped] at hgroup
  exact isPlainName_of_mem_groups hops (List.mem_eraseDups.mp hgroup)

/-- **The operations file of a group** has its comments sealed exactly if no text in the comments of
its functions has the end of a comment. -/
theorem isSealed_operationsFile_iff {group : Text} {members : List Operation}
    (hgroup : Identifier.IsPlainName group)
    (h : operationsFile document options (group, members) = .ok file) :
    ∃ view m, Client.operationsView document group members options = .ok view ∧
      marked Template.operations view.toValue options = .ok m ∧ file.contents = m.plain ∧
      (isSealed false m = true ↔
        ∀ op ∈ members, ∀ t, OperationText document op t → endsComment t = false) := by
  simp only [operationsFile, Result.bind_eq_ok_iff, Result.pure_def, Except.ok.injEq] at h
  obtain ⟨view, hview, text, htext, rfl⟩ := h
  obtain ⟨m, hm, hplain⟩ := (agree_marked _ _ _).exists_of_eq_ok htext
  refine ⟨view, m, hview, hm, hplain.symm, ?_⟩
  rw [isSealed_marked_iff (fun _ hs => Template.brings_operations hs) hm]
  simp only [Client.operationsView, Result.bind_eq_ok_iff, Result.pure_def,
    Except.ok.injEq] at hview
  obtain ⟨_, -, views, hviews, rfl⟩ := hview
  have hname : endsComment group = false :=
    Text.endsComment_eq_false (hgroup.notMem (by decide))
  have hends := Result.exists_mem_iff_of_mapM hviews fun op _ view hview =>
    Client.ends_operationView_iff options.typed hview
  rw [hname, hends]
  simp only [Bool.false_eq_true, false_or, not_exists, not_and, Bool.not_eq_true]

/-- **The file of types** has its comments sealed exactly if no text in the comments of its
declarations has the end of a comment. -/
theorem isSealed_typesFile_iff (h : (typesFile document ops options).result = .ok file) :
    ∃ view defs m, (Client.typesView document ops options).result = .ok view ∧
      (Client.definitions document ops).result = .ok defs ∧
      marked Template.types view.toValue options = .ok m ∧ file.contents = m.plain ∧
      (isSealed false m = true ↔ ∀ e ∈ defs, Client.isDeclared e.2 = true →
        ∀ t, DefinitionText e t → endsComment t = false) := by
  simp only [typesFile, Logged.result_bind, Logged.result_liftM, Logged.result_pure,
    Result.bind_eq_ok_iff, Except.ok.injEq] at h
  obtain ⟨view, hview, text, htext, rfl⟩ := h
  obtain ⟨m, hm, hplain⟩ := (agree_marked _ _ _).exists_of_eq_ok htext
  have hmade := hview
  simp only [Client.typesView, Logged.result_bind, Logged.result_pure, Result.bind_eq_ok_iff,
    Except.ok.injEq] at hmade
  obtain ⟨defs, hdefs, declared, hdeclared, rfl⟩ := hmade
  refine ⟨_, defs, m, hview, hdefs, hm, hplain.symm, ?_⟩
  rw [isSealed_marked_iff (fun _ hs => Template.brings_types hs) hm,
    Client.ends_declarations_iff options.typed hdeclared]
  simp only [not_exists, not_and, Bool.not_eq_true]

/-- **When text of the document stays in its comments.** Every group has an operations file, and
there is a file of types. In each of them the template closes every comment that it opens exactly if
no text that the document has for the comments of the file has the end of a comment in it. -/
theorem isSealed_files_iff (h : (clientFiles document options).result = .ok files) :
    ∃ ops, Api.findOperations document = .ok ops ∧
      (∀ group members, (group, members) ∈ Api.grouped ops → ∃ file ∈ files, ∃ view m,
        file.path = options.outDir.beneath [fileName group options] ∧
        Client.operationsView document group members options = .ok view ∧
        marked Template.operations view.toValue options = .ok m ∧ file.contents = m.plain ∧
        (isSealed false m = true ↔
          ∀ op ∈ members, ∀ t, OperationText document op t → endsComment t = false)) ∧
      ∃ file ∈ files, ∃ view defs m,
        file.path = options.outDir.beneath [fileName "types" options] ∧
        (Client.typesView document ops options).result = .ok view ∧
        (Client.definitions document ops).result = .ok defs ∧
        marked Template.types view.toValue options = .ok m ∧ file.contents = m.plain ∧
        (isSealed false m = true ↔ ∀ e ∈ defs, Client.isDeclared e.2 = true →
          ∀ t, DefinitionText e t → endsComment t = false) := by
  obtain ⟨ops, operations, types, descriptor, actions, hops, hoperations, htypes, -, -, rfl⟩ :=
    result_clientFiles_eq_ok_iff.mp h
  refine ⟨ops, hops, fun group members hmem => ?_, ?_⟩
  · obtain ⟨file, hfile, hmade⟩ := Result.exists_of_mem_of_mapM hoperations hmem
    obtain ⟨view, m, hview, hm, hplain, hsealed⟩ :=
      isSealed_operationsFile_iff (isPlainName_of_mem_grouped hops hmem) hmade
    exact ⟨file, by simp [hfile], view, m, path_of_operationsFile hmade, hview, hm, hplain,
      hsealed⟩
  · obtain ⟨view, defs, m, hview, hdefs, hm, hplain, hsealed⟩ := isSealed_typesFile_iff htypes
    exact ⟨types, by simp, view, defs, m, path_of_typesFile htypes, hview, hdefs, hm, hplain,
      hsealed⟩

/-- A description with one operation whose response is described. -/
def describedResponse (text : Text) : Value :=
  record [("paths", record [("/pets", record [("get", record [("operationId", .str "list"),
    ("responses", record [("200", record [("description", .str text)])])])])])]

/-- A description in two lines without an end of a comment stays in the comment of the function, and
without schemas there is nothing to describe in the file of types. -/
theorem isSealed_files_described : ∃ files ops members,
    (clientFiles (describedResponse "Pets\nby name") (.usual "out")).result = .ok files ∧
      Api.findOperations (describedResponse "Pets\nby name") = .ok ops ∧
      (Text.ofString "default", members) ∈ Api.grouped ops ∧ members ≠ [] ∧
      (∃ file ∈ files, ∃ m : Marked, file.path = ⟨0, ["out", "default.ts"]⟩ ∧
        file.contents = m.plain ∧ isSealed false m = true ∧ ∀ op ∈ members, ∀ t,
          OperationText (describedResponse "Pets\nby name") op t → endsComment t = false) ∧
      ∃ file ∈ files, ∃ m : Marked, file.path = ⟨0, ["out", "types.ts"]⟩ ∧
        file.contents = m.plain ∧ isSealed false m = true := by
  obtain ⟨files, hfiles⟩ := Result.exists_eq_ok_of_isOk
    (x := (clientFiles (describedResponse "Pets\nby name") (.usual "out")).result)
    (by decide +kernel)
  obtain ⟨ops, hops, hgroups, types, htypes, _, defs, m, hpath, -, hdefs, -, hplain, hsealed⟩ :=
    isSealed_files_iff hfiles
  have hnone : defs = [] := by
    have htest : (Api.findOperations (describedResponse "Pets\nby name") >>= fun ops =>
        (Client.definitions (describedResponse "Pets\nby name") ops).result).toOption.all
          List.isEmpty = true := by
      decide +kernel
    rw [hops, Result.ok_bind, hdefs] at htest
    exact List.isEmpty_iff.mp htest
  obtain ⟨ops', hops', htest⟩ := Result.exists_eq_ok_of_any
    (x := Api.findOperations (describedResponse "Pets\nby name"))
    (p := fun ops => (Api.grouped ops).any fun g => g.1 == "default" && !g.2.isEmpty &&
      (Client.operationsView (describedResponse "Pets\nby name") g.1 g.2 (.usual "out") >>=
        fun view => marked Template.operations view.toValue (.usual "out")).toOption.any
          (isSealed false)) (by decide +kernel)
  obtain rfl := Except.ok.inj (hops.symm.trans hops')
  obtain ⟨⟨group, members⟩, hmem, htest⟩ := List.any_eq_true.mp htest
  simp only [Bool.and_eq_true, Bool.not_eq_true', beq_iff_eq] at htest
  obtain ⟨⟨rfl, hmembers⟩, htest⟩ := htest
  obtain ⟨file, hfile, view, m', hpath', hview, hm', hplain', hsealed'⟩ := hgroups _ _ hmem
  have hclosed : isSealed false m' = true := by
    rw [hview, Result.ok_bind, hm'] at htest
    exact htest
  exact ⟨files, ops, members, hfiles, hops, hmem, by simpa using hmembers,
    ⟨file, hfile, m', hpath', hplain', hclosed, hsealed'.mp hclosed⟩,
    types, htypes, m, hpath, hplain, hsealed.mpr (by simp [hnone])⟩

/-- A description of which the first line has the end of a comment. -/
def closingDocument : Value := describedResponse "Pets */\nby name"

/-- The description of the response is a text in the comment of the function. -/
def responseText (op : Operation) : Result Text := do
  Client.descriptionText (← Client.responseDescription (← Api.bestOf op.responses))

/-- The description ends the comment of the function, and its second line is code. -/
theorem exists_not_isSealed : ∃ files file group members view m,
    (clientFiles closingDocument (.usual "out")).result = .ok files ∧ file ∈ files ∧
      Client.operationsView closingDocument group members (.usual "out") = .ok view ∧
      marked Template.operations view.toValue (.usual "out") = .ok m ∧ file.contents = m.plain ∧
      isSealed false m = false := by
  obtain ⟨files, hfiles⟩ := Result.exists_eq_ok_of_isOk
    (x := (clientFiles closingDocument (.usual "out")).result) (by decide +kernel)
  obtain ⟨ops, operations, types, descriptor, actions, hops, hoperations, -, -, -, rfl⟩ :=
    result_clientFiles_eq_ok_iff.mp hfiles
  obtain ⟨ops', hops', hends⟩ := Result.exists_eq_ok_of_any
    (x := Api.findOperations closingDocument)
    (p := fun ops => (Api.grouped ops).any fun g => g.2.any fun op =>
      (responseText op).toOption.any endsComment) (by decide +kernel)
  obtain rfl := Except.ok.inj (hops.symm.trans hops')
  obtain ⟨⟨group, members⟩, hmem, hends⟩ := List.any_eq_true.mp hends
  obtain ⟨op, hop, hends⟩ := List.any_eq_true.mp hends
  obtain ⟨t, ht, hends⟩ := Result.exists_eq_ok_of_any hends
  simp only [responseText, Result.bind_eq_ok_iff] at ht
  obtain ⟨response, hresponse, description, hdescription, ht⟩ := ht
  have htext : OperationText closingDocument op t := .response hresponse hdescription ht
  obtain ⟨file, hfile, hmade⟩ := Result.exists_of_mem_of_mapM hoperations hmem
  obtain ⟨view, m, hview, hm, hplain, hsealed⟩ :=
    isSealed_operationsFile_iff (isPlainName_of_mem_grouped hops hmem) hmade
  refine ⟨_, file, group, members, view, m, hfiles, by simp [hfile], hview, hm, hplain, ?_⟩
  refine Bool.eq_false_iff.mpr fun hclosed => ?_
  rw [hsealed.mp hclosed op hop t htext] at hends
  cases hends

end ClientScribe.Output
