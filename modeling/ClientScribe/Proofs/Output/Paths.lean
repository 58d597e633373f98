import ClientScribe.Output.ClientFile
import ClientScribe.Proofs.Api.Grouping
import ClientScribe.Proofs.Store.Writing

/-!
# The Paths of a Client

The files of a client stand beneath its directory: those of the groups and the file of types in it,
the descriptor and the actions one step further down. The name of a group is made of a tag and the
names of the other files are fixed, and nothing keeps a tag from making a fixed name:

* `map_path_of_clientFiles`: the paths, as a function of the groups and the options;
* `nodup_fileSteps_iff`: they are different exactly when no group has the name of the file of types.
-/

namespace ClientScribe.Output

open Api (Operation)
open Document (Value)
open Store (Path dots)

variable {document : Value} {options : Options} {files : List ClientFile} {groups : List Text}

/-! ### The steps beneath the directory of a client -/

/-- The steps from the directory of a client to its files, for groups with given names. -/
def fileSteps (groups : List Text) (options : Options) : List (List Text) :=
  groups.map (fun group => [fileName group options]) ++
    [[fileName "types" options], [Text.ofString "gateway", fileName "spec" options]] ++
    if options.redux.isTrue then
      groups.map fun group => [Text.ofString "action", fileName group options]
    else []

/-- Files with one name have it from one group. -/
@[simp] theorem fileName_inj {name other : Text} :
    fileName name options = fileName other options ↔ name = other := by
  simp [fileName]

/-- The name of a file leads to no directory above. -/
theorem fileName_ne_dots (name : Text) (options : Options) : dots ≠ fileName name options := by
  intro h
  have hlast := congrArg List.getLast? h
  cases hlanguage : options.language <;>
    simp [fileName, Options.extension, hlanguage, Language.name, dots, Text.ofString, Text.ofChars]
      at hlast

/-- No step to a file leads back. -/
theorem dots_notMem_of_mem_fileSteps {steps : List Text} (h : steps ∈ fileSteps groups options) :
    dots ∉ steps := by
  have hgateway : dots ≠ Text.ofString "gateway" := by decide
  have haction : dots ≠ Text.ofString "action" := by decide
  simp only [fileSteps, List.append_assoc, List.mem_append, List.mem_map, List.mem_cons,
    List.not_mem_nil, or_false] at h
  obtain ⟨group, -, rfl⟩ | (rfl | rfl) | h := h
  · simp [fileName_ne_dots]
  · simp [fileName_ne_dots]
  · simp [fileName_ne_dots, hgateway]
  · split at h
    · obtain ⟨group, -, rfl⟩ := List.mem_map.mp h
      simp [fileName_ne_dots, haction]
    · cases h

/-- **Which steps are different.** Steps to files of different groups are, and so are those to the
directories further down; a group can only share its file with the types. -/
theorem nodup_fileSteps_iff (hgroups : groups.Nodup) :
    (fileSteps groups options).Nodup ↔ Text.ofString "types" ∉ groups := by
  have hoperations : (groups.map fun group => [fileName group options]).Nodup :=
    hgroups.map fun a b h => by simpa using h
  have hactions : (if options.redux.isTrue then
      groups.map fun group => [Text.ofString "action", fileName group options] else []).Nodup := by
    split
    · exact hgroups.map fun a b h => by simpa using h
    · exact List.nodup_nil
  have hne : Text.ofString "gateway" ≠ Text.ofString "action" := by decide
  rw [fileSteps, List.nodup_append, List.nodup_append]
  constructor
  · rintro ⟨⟨-, -, hdisjoint⟩, -⟩ hmem
    exact hdisjoint _ (List.mem_map_of_mem hmem) _ List.mem_cons_self rfl
  · intro hmem
    refine ⟨⟨hoperations, by simp, ?_⟩, hactions, ?_⟩
    · simp only [List.mem_map, List.mem_cons, List.not_mem_nil, or_false]
      rintro _ ⟨group, hgroup, rfl⟩ _ (rfl | rfl)
      · have hne : group ≠ Text.ofString "types" := fun heq => hmem (heq ▸ hgroup)
        simpa using hne
      · simp
    · intro steps hsteps other hother
      split at hother
      · obtain ⟨group, -, rfl⟩ := List.mem_map.mp hother
        simp only [List.mem_append, List.mem_map, List.mem_cons, List.not_mem_nil, or_false]
          at hsteps
        obtain ⟨group', -, rfl⟩ | rfl | rfl := hsteps <;> simp [hne]
      · cases hother

/-! ### The files of a client -/

/-- The files of the actions of operations, if they are asked for. -/
def actionsFiles (document : Value) (options : Options) (ops : List Operation) :
    Result (List ClientFile) :=
  if options.redux.isTrue then (Api.grouped ops).mapM (actionsFile document options) else .ok []

/-- The result of making a client, as a chain of results. -/
theorem result_clientFiles (document : Value) (options : Options) :
    (clientFiles document options).result = (do
      let ops ← Api.findOperations document
      let operations ← (Api.grouped ops).mapM (operationsFile document options)
      let types ← (typesFile document ops options).result
      let descriptor ← descriptorFile document options
      let actions ← actionsFiles document options ops
      return operations ++ [types, descriptor] ++ actions) := by
  have hops : (Api.operations document).result = Api.findOperations document := by
    simp only [Api.operations, Logged.result_bind, Logged.result_ofResult, Logged.result_note,
      Logged.result_pure, Result.ok_bind]
    cases Api.findOperations document <;> rfl
  cases hredux : options.redux.isTrue <;>
    simp only [clientFiles, actionsFiles, hredux, Bool.false_eq_true, if_true, if_false,
      Logged.result_bind, Logged.result_liftM, Logged.result_pure, hops, Result.pure_def,
      Result.ok_bind]

/-- **The files of a client**: one for each group of operations, the file of types, the descriptor
and, if they are asked for, the actions of each group. -/
theorem result_clientFiles_eq_ok_iff : (clientFiles document options).result = .ok files ↔
    ∃ ops operations types descriptor actions, Api.findOperations document = .ok ops ∧
      (Api.grouped ops).mapM (operationsFile document options) = .ok operations ∧
      (typesFile document ops options).result = .ok types ∧
      descriptorFile document options = .ok descriptor ∧
      (if options.redux.isTrue then (Api.grouped ops).mapM (actionsFile document options)
        else .ok []) = .ok actions ∧
      operations ++ [types, descriptor] ++ actions = files := by
  simp only [result_clientFiles, actionsFiles, Result.bind_eq_ok_iff, Result.pure_def,
    Except.ok.injEq]
  constructor
  · rintro ⟨ops, hops, operations, hoperations, types, htypes, descriptor, hdescriptor, actions,
      hactions, hfiles⟩
    exact ⟨ops, operations, types, descriptor, actions, hops, hoperations, htypes, hdescriptor,
      hactions, hfiles⟩
  · rintro ⟨ops, operations, types, descriptor, actions, hops, hoperations, htypes, hdescriptor,
      hactions, hfiles⟩
    exact ⟨ops, hops, operations, hoperations, types, htypes, descriptor, hdescriptor, actions,
      hactions, hfiles⟩

/-- The file of a group is named after it. -/
theorem path_of_operationsFile {pair : Text × List Operation} {file : ClientFile}
    (h : operationsFile document options pair = .ok file) :
    file.path = options.outDir.beneath [fileName pair.1 options] := by
  simp only [operationsFile, Result.bind_eq_ok_iff, Result.pure_def, Except.ok.injEq] at h
  obtain ⟨_, -, _, -, rfl⟩ := h
  rfl

/-- The file of a group's actions is named after it, one step further down. -/
theorem path_of_actionsFile {pair : Text × List Operation} {file : ClientFile}
    (h : actionsFile document options pair = .ok file) :
    file.path = options.outDir.beneath [Text.ofString "action", fileName pair.1 options] := by
  simp only [actionsFile, Result.bind_eq_ok_iff, Result.pure_def, Except.ok.injEq] at h
  obtain ⟨_, -, _, -, rfl⟩ := h
  simp

/-- The file of types has its fixed name. -/
theorem path_of_typesFile {ops : List Operation} {file : ClientFile}
    (h : (typesFile document ops options).result = .ok file) :
    file.path = options.outDir.beneath [fileName "types" options] := by
  simp only [typesFile, Logged.result_bind, Logged.result_liftM, Logged.result_pure,
    Result.bind_eq_ok_iff, Except.ok.injEq] at h
  obtain ⟨_, -, _, -, rfl⟩ := h
  rfl

/-- The file of the service has its fixed name, one step further down. -/
theorem path_of_descriptorFile {file : ClientFile}
    (h : descriptorFile document options = .ok file) :
    file.path = options.outDir.beneath [Text.ofString "gateway", fileName "spec" options] := by
  simp only [descriptorFile, Result.bind_eq_ok_iff, Result.pure_def, Except.ok.injEq] at h
  obtain ⟨_, -, _, -, rfl⟩ := h
  simp

/-- **The paths of a client.** They are those of its steps beneath the directory, in order. -/
theorem map_path_of_clientFiles {ops : List Operation}
    (hops : Api.findOperations document = .ok ops)
    (h : (clientFiles document options).result = .ok files) :
    files.map ClientFile.path =
      (fileSteps ((Api.grouped ops).map Prod.fst) options).map options.outDir.beneath := by
  obtain ⟨ops', operations, types, descriptor, actions, hops', hoperations, htypes, hdescriptor,
    hactions, rfl⟩ := result_clientFiles_eq_ok_iff.mp h
  obtain rfl : ops = ops' := Except.ok.inj (hops.symm.trans hops')
  have hoperationPaths := Result.map_eq_map_of_mapM (g := ClientFile.path) hoperations
    fun _ _ _ => path_of_operationsFile
  have hactionPaths : actions.map ClientFile.path =
      (if options.redux.isTrue then ((Api.grouped ops).map Prod.fst).map fun group =>
        [Text.ofString "action", fileName group options] else []).map options.outDir.beneath := by
    split at hactions
    · next hredux =>
      rw [if_pos hredux, List.map_map, List.map_map]
      exact Result.map_eq_map_of_mapM hactions fun _ _ _ => path_of_actionsFile
    · next hredux =>
      obtain rfl := Except.ok.inj hactions
      rw [if_neg hredux]
      rfl
  simp only [fileSteps, List.map_append, List.map_map, Function.comp_def, hoperationPaths,
    hactionPaths, List.map_cons, List.map_nil, path_of_typesFile htypes,
    path_of_descriptorFile hdescriptor]

/-- The paths of a client are different exactly when no group has the name of the file of types. -/
theorem nodup_map_path_iff {ops : List Operation} (hops : Api.findOperations document = .ok ops)
    (h : (clientFiles document options).result = .ok files) :
    (files.map ClientFile.path).Nodup ↔ ∀ op ∈ ops, op.group ≠ Text.ofString "types" := by
  rw [map_path_of_clientFiles hops h,
    List.nodup_map_iff fun steps other h => Path.beneath_inj.mp h,
    nodup_fileSteps_iff (Api.nodup_map_fst_grouped ops), Api.mem_map_fst_grouped_iff]
  simp

end ClientScribe.Output
