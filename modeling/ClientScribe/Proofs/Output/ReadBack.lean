import ClientScribe.Proofs.Output.Atomicity
import ClientScribe.Proofs.Output.Encoding

/-!
# Reading a Written Client

Only a group that is named as the types are has the path of the file of types, and its contents are
never those of that file (`contents_ne_of_types`). So a written client reads back as it was made
exactly when no operation is in such a group:

* `read?_writeClient_iff`: the paths are different, and every file is what reading its path gives,
  exactly when no group has the name of the file of types;
* `exists_overwritten`: a description with such a group.
-/

namespace ClientScribe.Output

open Api (Operation)
open Document (Value record)
open Store (Path destination)

variable {document : Value} {options : Options} {file : ClientFile} {files : List ClientFile}
  {s : Store}

/-! ### How files begin -/

/-- The start of the file of types. -/
def typesStart : Text :=
  "/** @module types */\n" ++ "// Auto-generated, edits will be overwritten\n" ++ "\n"

/-- The two starts that the file of a group with the name of the types can have: it refers to the
types or it does not. -/
def operationsStarts : List Text :=
  ["/// <reference path=\"types.ts\"/>\n",
    "/** @module types */\n" ++ "// Auto-generated, edits will be overwritten\n" ++
      "import * as gateway from './gateway'"]

/-- The text of a template that starts with a text without a step starts with it in every unit of
indentation. -/
theorem exists_append_of_written {parts : List Template.Part} {view : Value} {contents : Text}
    {starts : List Text} (hsolid : ∀ start ∈ starts, Template.isSolid start = true)
    (hstart : ∀ text, Template.render parts view = .ok text →
      ∃ start ∈ starts, ∃ behind, text = start ++ behind)
    (h : written parts view options = .ok contents) :
    ∃ start ∈ starts, ∃ behind, contents = start ++ behind := by
  simp only [written, Result.bind_eq_ok_iff, Result.pure_def, Except.ok.injEq] at h
  obtain ⟨text, htext, rfl⟩ := h
  obtain ⟨start, hmem, behind, rfl⟩ := hstart text htext
  obtain ⟨indented, hindented⟩ :=
    Template.exists_reindent_append (hsolid start hmem) options.indent.unit behind
  exact ⟨start, hmem, indented, hindented⟩

/-- The file of types begins in one way. -/
theorem contents_of_typesFile {ops : List Operation}
    (h : (typesFile document ops options).result = .ok file) :
    ∃ behind, file.contents = typesStart ++ behind := by
  simp only [typesFile, Logged.result_bind, Logged.result_liftM, Logged.result_pure,
    Result.bind_eq_ok_iff, Except.ok.injEq] at h
  obtain ⟨view, -, contents, hcontents, rfl⟩ := h
  have hstart : ∀ text, Template.render Template.types view.toValue = .ok text →
      ∃ start ∈ [typesStart], ∃ behind, text = start ++ behind := by
    intro text htext
    obtain ⟨scope, -, htext⟩ := Result.bind_eq_ok_iff.mp htext
    obtain ⟨_, hfirst, rfl⟩ := Template.exists_append_of_renderParts htext
    obtain ⟨_, hsecond, rfl⟩ := Template.exists_append_of_renderParts hfirst
    obtain ⟨behind, -, rfl⟩ := Template.exists_append_of_renderParts hsecond
    exact ⟨typesStart, List.mem_singleton_self _, behind, rfl⟩
  obtain ⟨start, hmem, hbehind⟩ := exists_append_of_written (by decide) hstart hcontents
  rwa [List.mem_singleton.mp hmem] at hbehind

/-- The file of a group with the name of the types begins in another way. -/
theorem contents_of_operationsFile {members : List Operation}
    (h : operationsFile document options (Text.ofString "types", members) = .ok file) :
    ∃ start ∈ operationsStarts, ∃ behind, file.contents = start ++ behind := by
  simp only [operationsFile, Result.bind_eq_ok_iff, Result.pure_def, Except.ok.injEq] at h
  obtain ⟨view, hview, contents, hcontents, rfl⟩ := h
  have hgroup : view.group = Text.ofString "types" := by
    simp only [Client.operationsView, Result.bind_eq_ok_iff, Result.pure_def,
      Except.ok.injEq] at hview
    obtain ⟨_, -, _, -, rfl⟩ := hview
    rfl
  refine exists_append_of_written (by decide) (fun text htext => ?_) hcontents
  rw [Template.render, Client.OperationsView.toValue, Template.scopeOf_record, Result.ok_bind,
    hgroup] at htext
  obtain ⟨reference, rest, hreference, hrest, rfl⟩ :=
    Template.renderParts_cons_eq_ok_iff.mp htext
  obtain ⟨condition, -, hreference⟩ := Template.renderPart_choice_eq_ok_iff.mp hreference
  split at hreference
  · obtain ⟨behind, -, rfl⟩ := Template.exists_append_of_renderParts hreference
    refine ⟨_, List.mem_cons_self, behind ++ rest, ?_⟩
    rw [List.append_assoc]
    rfl
  · -- without the reference the name of the group is written first
    obtain rfl := Except.ok.inj hreference
    obtain ⟨_, hnamed, rfl⟩ := Template.exists_append_of_renderParts hrest
    obtain ⟨name, _, hname, hend, rfl⟩ := Template.renderParts_cons_eq_ok_iff.mp hnamed
    obtain ⟨v, hv, hname⟩ := Template.renderPart_value_eq_ok_iff.mp hname
    obtain rfl : .str "types" = v := Option.some.inj (Except.ok.inj hv)
    obtain rfl : Text.ofString "types" = name := Except.ok.inj hname
    obtain ⟨_, hgenerated, rfl⟩ := Template.exists_append_of_renderParts hend
    obtain ⟨_, himport, rfl⟩ := Template.exists_append_of_renderParts hgenerated
    obtain ⟨behind, -, rfl⟩ := Template.exists_append_of_renderParts himport
    refine ⟨_, List.mem_cons_of_mem _ List.mem_cons_self, behind, ?_⟩
    rfl

/-- **A group named as the types loses its file.** Its contents are never those of the file of
types. -/
theorem contents_ne_of_types {ops members : List Operation} {operations types : ClientFile}
    (hoperations : operationsFile document options (Text.ofString "types", members) =
      .ok operations)
    (htypes : (typesFile document ops options).result = .ok types) :
    operations.contents ≠ types.contents := by
  obtain ⟨start, hmem, behind, hstart⟩ := contents_of_operationsFile hoperations
  obtain ⟨rest, hrest⟩ := contents_of_typesFile htypes
  intro heq
  have hdiffer : ∀ start ∈ operationsStarts, ¬start <+: typesStart ∧ ¬typesStart <+: start := by
    decide
  have hoperationsPrefix : start <+: types.contents := by
    rw [← heq, hstart]
    exact List.prefix_append start behind
  have htypesPrefix : typesStart <+: types.contents := by
    rw [hrest]
    exact List.prefix_append typesStart rest
  obtain h | h := List.prefix_or_prefix_of_prefix hoperationsPrefix htypesPrefix
  · exact (hdiffer start hmem).1 h
  · exact (hdiffer start hmem).2 h

/-! ### Reading back -/

/-- Where the paths of a client are different, each reads as its file once the client is written. -/
theorem read?_of_nodup (h : (clientFiles document options).result = .ok files)
    (hwritten : (writeFiles s files).2.result = .ok ())
    (hnodup : (files.map ClientFile.path).Nodup) (hfile : file ∈ files) :
    ∃ bytes, file.contents.utf8? = some bytes ∧
      (writeFiles s files).1.read? file.path = .ok bytes := by
  obtain ⟨before, behind, rfl⟩ := List.append_of_mem hfile
  refine read?_writeFiles hwritten fun other hother => ?_
  have hmem : other ∈ before ++ file :: behind := by simp [hother]
  refine destination_ne_of_path_ne h hfile hmem fun heq => ?_
  rw [List.map_append, List.nodup_append, List.map_cons, List.nodup_cons] at hnodup
  exact hnodup.2.1.1 (heq ▸ List.mem_map_of_mem hother)

/-- The path of the types reads as the file of types once the client is written. -/
theorem read?_of_types {ops : List Operation} {operations actions : List ClientFile}
    {types descriptor : ClientFile}
    (h : (clientFiles document options).result =
      .ok (operations ++ [types, descriptor] ++ actions))
    (htypes : (typesFile document ops options).result = .ok types)
    (hdescriptor : descriptorFile document options = .ok descriptor)
    (hactions : (if options.redux.isTrue then
      (Api.grouped ops).mapM (actionsFile document options) else .ok []) = .ok actions)
    (hwritten : (writeFiles s (operations ++ [types, descriptor] ++ actions)).2.result = .ok ()) :
    ∃ bytes, types.contents.utf8? = some bytes ∧
      (writeFiles s (operations ++ [types, descriptor] ++ actions)).1.read? types.path =
        .ok bytes := by
  have hsplit : operations ++ [types, descriptor] ++ actions =
      operations ++ types :: descriptor :: actions := by simp
  rw [hsplit] at h hwritten ⊢
  refine read?_writeFiles hwritten fun other hother =>
    destination_ne_of_path_ne h (by simp) (by simp_all) ?_
  rw [path_of_typesFile htypes]
  obtain rfl | hother := List.mem_cons.mp hother
  · simp [path_of_descriptorFile hdescriptor]
  · split at hactions
    · obtain ⟨pair, -, hpair⟩ := Result.exists_of_mem_mapM hactions hother
      simp [path_of_actionsFile hpair]
    · obtain rfl := Except.ok.inj hactions
      cases hother

/-- **When no file overwrites another.** The paths of a client are different exactly when no
operation is in a group with the name of the file of types. A successful write returns these paths,
and each of them holds the contents that were made for it exactly in that case too. -/
theorem read?_writeClient_iff (h : (clientFiles document options).result = .ok files) :
    ∃ ops, Api.findOperations document = .ok ops ∧
      ((files.map ClientFile.path).Nodup ↔ ∀ op ∈ ops, op.group ≠ Text.ofString "types") ∧
      ∀ s paths, (writeClient s document options).2.result = .ok paths →
        paths = files.map ClientFile.path ∧
          ((∀ file ∈ files, ∃ bytes, file.contents.utf8? = some bytes ∧
              (writeClient s document options).1.read? file.path = .ok bytes) ↔
            ∀ op ∈ ops, op.group ≠ Text.ofString "types") := by
  obtain ⟨ops, operations, types, descriptor, actions, hops, hoperations, htypes, hdescriptor,
    hactions, rfl⟩ := result_clientFiles_eq_ok_iff.mp h
  have hnodup := nodup_map_path_iff hops h
  refine ⟨ops, hops, hnodup, fun s paths hpaths => ?_⟩
  obtain ⟨hwritten, hstore, hreturned⟩ := writeClient_eq_ok h hpaths
  rw [hstore]
  refine ⟨hreturned, fun hread op hop hgroup => ?_, fun hgroups file hfile =>
    read?_of_nodup h hwritten (hnodup.mpr hgroups) hfile⟩
  -- the file of such a group reads as the file of types
  obtain ⟨⟨name, members⟩, hpair, rfl⟩ :=
    List.mem_map.mp (Api.mem_map_fst_grouped_iff.mpr ⟨op, hop, hgroup⟩)
  obtain ⟨file, hfile, hmade⟩ := Result.exists_of_mem_of_mapM hoperations hpair
  have hpath : file.path = types.path := by
    rw [path_of_operationsFile hmade, path_of_typesFile htypes]
  obtain ⟨bytes, hbytes, hown⟩ := hread file (by simp [hfile])
  obtain ⟨bytes', hbytes', hlast⟩ := read?_of_types h htypes hdescriptor hactions hwritten
  rw [hpath, hlast] at hown
  obtain rfl := Except.ok.inj hown
  exact contents_ne_of_types hmade htypes (Text.utf8?_inj hbytes hbytes')

/-- A client with a group of pets can be written where there is nothing yet. -/
theorem exists_petsFiles : ∃ files,
    (clientFiles (taggedDocument "pets") (.usual "out")).result = .ok files ∧
      (∀ file ∈ files, Store.CanBeWritten .empty file.path) ∧
      ∀ file ∈ files, file.contents.utf8?.isSome = true :=
  exists_files_of_test _ _ (Store.CanBeWritten .empty) (by decide +kernel) (by decide +kernel)

/-- There it reads back as it was made. -/
theorem read?_writeClient_pets : ∃ files paths,
    (clientFiles (taggedDocument "pets") (.usual "out")).result = .ok files ∧
      (files.map ClientFile.path).Nodup ∧
      (writeClient .empty (taggedDocument "pets") (.usual "out")).2.result = .ok paths ∧
      ∀ file ∈ files, ∃ bytes, file.contents.utf8? = some bytes ∧
        (writeClient .empty (taggedDocument "pets") (.usual "out")).1.read? file.path =
          .ok bytes := by
  obtain ⟨files, hfiles, hopen, hbytes⟩ := exists_petsFiles
  obtain ⟨ops, hops, hnodup, hwritten⟩ := read?_writeClient_iff hfiles
  have hgroups : ∀ op ∈ ops, op.group ≠ Text.ofString "types" := by
    obtain rfl := Except.ok.inj hops
    decide
  obtain ⟨hpaths, -⟩ := writeClient_of_encodable hfiles hopen hbytes
  exact ⟨files, _, hfiles, hnodup.mpr hgroups, hpaths, (hwritten _ _ hpaths).2.mpr hgroups⟩

/-- **A file that is overwritten.** A tag can name a group as the types are named; then two files of
the client have one path. -/
theorem exists_overwritten : ∃ files,
    (clientFiles (taggedDocument "types") (.usual "out")).result = .ok files ∧
      ¬(files.map ClientFile.path).Nodup := by
  obtain ⟨files, hfiles⟩ := Result.exists_eq_ok_of_isOk
    (x := (clientFiles (taggedDocument "types") (.usual "out")).result) (by decide +kernel)
  have hops : Api.findOperations (taggedDocument "types") = .ok _ := rfl
  exact ⟨files, hfiles, fun hnodup =>
    (nodup_map_path_iff hops hfiles).mp hnodup _ List.mem_cons_self rfl⟩

end ClientScribe.Output
