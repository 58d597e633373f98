import ClientScribe.Proofs.Api.Endpoints
import ClientScribe.Proofs.Output.Locality

/-!
# Endpoints in the Files of a Client

Every endpoint of a description is in its client once. It is read as one operation, the operation
stands in one group, and the file of the group is written from one view for each of its operations,
in order; so is the file of the group's actions, if actions are asked for. What a file shows is
stated of the view that it is written from (`ShowsOperations`, `ShowsActions`).
-/

namespace ClientScribe.Output

open Api (Operation Endpoint)
open Document (Value Entries record)

variable {document : Value} {options : Options} {ops members : List Operation}
  {files : List ClientFile} {file : ClientFile} {group : Text}

/-! ### What a file shows -/

/-- A file is written from the views of operations, one for each and in order. -/
def ShowsOperations (document : Value) (options : Options) (group : Text)
    (members : List Operation) (file : ClientFile) : Prop :=
  ∃ view : Client.OperationsView,
    written Template.operations view.toValue options = .ok file.contents ∧ view.group = group ∧
      List.Forall₂ (fun op v => Client.operationView document op options = .ok v ∧ v.id = op.id)
        members view.operations

/-- A file is written from the views of the operations' actions, one for each and in order. -/
def ShowsActions (document : Value) (options : Options) (group : Text)
    (members : List Operation) (file : ClientFile) : Prop :=
  ∃ view : Client.ActionsView,
    written Template.actions view.toValue options = .ok file.contents ∧ view.group = group ∧
      List.Forall₂ (fun op v => Client.actionView document group op options = .ok v ∧ v.id = op.id)
        members view.actions

/-- The view of an operation keeps its id. -/
theorem id_of_operationView {op : Operation} {view : Client.OperationView}
    (h : Client.operationView document op options = .ok view) : view.id = op.id := by
  simp only [Client.operationView, Result.bind_eq_ok_iff, Result.pure_def] at h
  obtain ⟨_, -, _, -, _, -, h⟩ := h
  split at h
  all_goals
    simp only [Result.bind_eq_ok_iff, Except.ok.injEq] at h
    obtain ⟨_, -, _, -, _, -, _, -, _, -, rfl⟩ := h
    rfl

/-- The view of an action has the id of its operation. -/
theorem id_of_actionView {op : Operation} {view : Client.ActionView}
    (h : Client.actionView document group op options = .ok view) : view.id = op.id := by
  simp only [Client.actionView, Result.bind_eq_ok_iff, Result.pure_def, Except.ok.injEq] at h
  obtain ⟨_, -, _, -, _, -, _, -, rfl⟩ := h
  rfl

/-- The file of a group shows its operations. -/
theorem showsOperations (h : operationsFile document options (group, members) = .ok file) :
    ShowsOperations document options group members file := by
  simp only [operationsFile, Client.operationsView, Result.bind_eq_ok_iff, Result.pure_def,
    Except.ok.injEq] at h
  obtain ⟨_, ⟨hasTypes, -, views, hviews, rfl⟩, contents, hcontents, rfl⟩ := h
  refine ⟨_, hcontents, rfl, ?_⟩
  exact (Result.mapM_eq_ok_iff.mp hviews).imp fun op v hv => ⟨hv, id_of_operationView hv⟩

/-- The file of a group's actions shows them. -/
theorem showsActions (h : actionsFile document options (group, members) = .ok file) :
    ShowsActions document options group members file := by
  simp only [actionsFile, Client.actionsView, Result.bind_eq_ok_iff, Result.pure_def,
    Except.ok.injEq] at h
  obtain ⟨_, ⟨hasTypes, -, views, hviews, rfl⟩, contents, hcontents, rfl⟩ := h
  refine ⟨_, hcontents, rfl, ?_⟩
  exact (Result.mapM_eq_ok_iff.mp hviews).imp fun op v hv => ⟨hv, id_of_actionView hv⟩

/-! ### Every endpoint once -/

/-- Every group has its file of operations and, if actions are asked for, its file of them. -/
theorem exists_made_of_mem_grouped (hops : Api.findOperations document = .ok ops)
    (h : (clientFiles document options).result = .ok files) {pair : Text × List Operation}
    (hpair : pair ∈ Api.grouped ops) :
    (∃ file, operationsFile? ops files pair.1 = some file ∧
      operationsFile document options pair = .ok file) ∧
    (options.redux.isTrue = true → ∃ file, actionsFile? ops files pair.1 = some file ∧
      actionsFile document options pair = .ok file) := by
  obtain ⟨ops', hops', hoperations, hactions, -⟩ := exists_files h
  obtain rfl := Except.ok.inj (hops.symm.trans hops')
  obtain ⟨op, hop, hgroup⟩ := Api.mem_map_fst_grouped_iff.mp (List.mem_map_of_mem hpair)
  have hmembers := (Api.members_of_mem_grouped hpair).1
  obtain ⟨group, members⟩ := pair
  obtain rfl : op.group = group := hgroup
  obtain rfl : members = ops.filter (·.group == op.group) := hmembers
  exact ⟨hoperations op hop, fun hredux => hactions hredux op hop⟩

/-- These files show the operations of the group and their actions. -/
theorem exists_files_of_mem_grouped (hops : Api.findOperations document = .ok ops)
    (h : (clientFiles document options).result = .ok files) {pair : Text × List Operation}
    (hpair : pair ∈ Api.grouped ops) :
    (∃ file, operationsFile? ops files pair.1 = some file ∧
      ShowsOperations document options pair.1 pair.2 file) ∧
    (options.redux.isTrue = true → ∃ file, actionsFile? ops files pair.1 = some file ∧
      ShowsActions document options pair.1 pair.2 file) := by
  obtain ⟨⟨file, hfile, hmade⟩, hactions⟩ := exists_made_of_mem_grouped hops h hpair
  refine ⟨⟨file, hfile, showsOperations hmade⟩, fun hredux => ?_⟩
  obtain ⟨file, hfile, hmade⟩ := hactions hredux
  exact ⟨file, hfile, showsActions hmade⟩

/-- **Every endpoint is in the client once.** Where the operations of a description can be read,

* they are its endpoints, one by one: path by path in order, and within a path in the order of the
  methods. If no path stands twice, no two operations have both path and method in common;
* their groups are the groups they have, each once and in the order in which they first come up,
  none is empty, and together they have every operation once, in the order of all;
* and in a client every group has a file that shows its operations and no other ones, and with
  actions a file that shows the actions of the same operations in the same order. -/
theorem endpoints_in_client (h : Api.findOperations document = .ok ops) :
    (∃ entries, (Api.paths document >>= Value.entries) = .ok entries ∧
      List.Forall₂ (Endpoint.IsReadAs document) (Api.endpoints entries) ops ∧
      ((entries.map Prod.fst).Nodup → (ops.map fun op => (op.path, op.method)).Nodup)) ∧
    (Api.grouped ops = (ops.map Operation.group).eraseDups.map (fun group =>
        (group, ops.filter (·.group == group))) ∧
      ((Api.grouped ops).map Prod.fst).Nodup ∧ (∀ pair ∈ Api.grouped ops, pair.2 ≠ []) ∧
      ((Api.grouped ops).flatMap Prod.snd).Perm ops) ∧
    ∀ options files, (clientFiles document options).result = .ok files →
      ∀ pair ∈ Api.grouped ops,
        (∃ file, operationsFile? ops files pair.1 = some file ∧
          ShowsOperations document options pair.1 pair.2 file) ∧
        (options.redux.isTrue = true → ∃ file, actionsFile? ops files pair.1 = some file ∧
          ShowsActions document options pair.1 pair.2 file) := by
  obtain ⟨entries, hentries, hread⟩ := Api.forall₂_endpoints h
  refine ⟨⟨entries, hentries, hread, fun hpaths => ?_⟩, ⟨Api.grouped_eq ops,
    Api.nodup_map_fst_grouped ops, fun pair hpair => (Api.members_of_mem_grouped hpair).2,
    Api.flatMap_grouped_perm ops⟩, fun options files hfiles pair hpair =>
      exists_files_of_mem_grouped h hfiles hpair⟩
  rw [Api.map_path_method_of_isReadAs hread]
  exact Api.nodup_endpoints hpaths

/-- A description with two paths and three operations. The first path has its methods out of order,
and a key that is no method. -/
def twoPaths : Value :=
  record [("paths", record [
    ("/pets", record [
      ("post", record [("operationId", .str "addPet"), ("tags", .list [.str "pets"])]),
      ("parameters", .list []),
      ("get", record [("operationId", .str "listPets"), ("tags", .list [.str "pets"])])]),
    ("/owners", record [
      ("get", record [("operationId", .str "listOwners"), ("tags", .list [.str "owners"])])])])]

/-- A file that is indented as the templates are is what its template makes of its view. -/
theorem render_eq_ok_of_written {parts : List Template.Part} {view : Value} {contents : Text}
    (hunit : options.indent.unit = Template.step) (h : written parts view options = .ok contents) :
    Template.render parts view = .ok contents := by
  simp only [written, hunit, Template.reindent_step, Result.bind_eq_ok_iff, Result.pure_def,
    Except.ok.injEq] at h
  obtain ⟨_, hrendered, rfl⟩ := h
  exact hrendered

/-- The client of two paths shows the listing of pets before their addition, and the files of pets
are what the templates make of the views of these. -/
theorem endpoints_in_client_twoPaths : ∃ ops files list add owners,
    Api.findOperations twoPaths = .ok ops ∧ ops = [list, add, owners] ∧
      ops.map Operation.id = [.str "listPets", .str "addPet", .str "listOwners"] ∧
      (clientFiles twoPaths { Options.usual "out" with redux := .bool true }).result = .ok files ∧
      (∃ file, ∃ view : Client.OperationsView, operationsFile? ops files "pets" = some file ∧
        Template.render Template.operations view.toValue = .ok file.contents ∧
        view.group = "pets" ∧ List.Forall₂ (fun op v => Client.operationView twoPaths op
          { Options.usual "out" with redux := .bool true } = .ok v ∧ v.id = op.id)
          [list, add] view.operations) ∧
      ∃ file, ∃ view : Client.ActionsView, actionsFile? ops files "pets" = some file ∧
        Template.render Template.actions view.toValue = .ok file.contents ∧
        view.group = "pets" ∧ List.Forall₂ (fun op v => Client.actionView twoPaths "pets" op
          { Options.usual "out" with redux := .bool true } = .ok v ∧ v.id = op.id)
          [list, add] view.actions := by
  have hops : Api.findOperations twoPaths = .ok _ := rfl
  obtain ⟨files, hfiles⟩ := Result.exists_eq_ok_of_isOk
    (x := (clientFiles twoPaths { Options.usual "out" with redux := .bool true }).result)
    (by decide +kernel)
  obtain ⟨-, -, hshown⟩ := endpoints_in_client hops
  obtain ⟨⟨file, hfile, view, hwritten, hgroup, hviews⟩, hactions⟩ :=
    hshown _ files hfiles _ List.mem_cons_self
  obtain ⟨actions, hfile', view', hwritten', hgroup', hviews'⟩ := hactions rfl
  exact ⟨_, files, _, _, _, hops, rfl, rfl, hfiles,
    ⟨file, view, hfile, render_eq_ok_of_written rfl hwritten, hgroup, hviews⟩,
    actions, view', hfile', render_eq_ok_of_written rfl hwritten', hgroup', hviews'⟩

end ClientScribe.Output
