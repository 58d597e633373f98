import ClientScribe.Proofs.Api.Grouping
import ClientScribe.Proofs.Client.Descriptor
import ClientScribe.Proofs.Client.Locality
import ClientScribe.Proofs.Output.SideBySide
import ClientScribe.Proofs.Output.Written

/-!
# What a File of a Client Depends On

The whole description is handed to every file of a client, but a file shows only what it is about.
The files of a group of operations depend on the operations of the group and on the schemas that the
description keeps under a name, and the file of types on all operations and the schemas. So a change
elsewhere in a description changes no other file.

In particular the source of a description shows in the descriptor only (`clientFiles_local`), unless
the description contains itself: then it has the derived fields wherever it comes up, and a default
value that leads back to it shows them in the file of a group (`exists_source_shown`).
-/

namespace ClientScribe.Output

open Api (Operation OpensOutward withDerivedFields)
open Document (Value record)
open Result (Agree)
open Store (Path)

variable {document document' d d' : Value} {options : Options} {ops ops' : List Operation}
  {files files' : List ClientFile} {group : Text}

/-! ### Files that are made alike -/

/-- The file of a group's operations depends on the schemas of the description only. -/
theorem operationsFile_congr (h : Api.schemas document = Api.schemas document')
    (options : Options) : operationsFile document options = operationsFile document' options := by
  funext group
  rw [operationsFile, operationsFile, Client.operationsView_congr h]

/-- The file of a group's actions depends on the schemas of the description only. -/
theorem actionsFile_congr (h : Api.schemas document = Api.schemas document')
    (options : Options) : actionsFile document options = actionsFile document' options := by
  funext group
  rw [actionsFile, actionsFile, Client.actionsView_congr h]

/-- Beside the operations, the file of types depends on the schemas only. -/
theorem typesFile_congr (h : Api.schemas document = Api.schemas document')
    (ops : List Operation) (options : Options) :
    typesFile document ops options = typesFile document' ops options := by
  rw [typesFile, typesFile, Client.typesView_congr h]

/-! ### Finding a file -/

/-- The file of a group's operations among the files of a client. -/
def operationsFile? (ops : List Operation) (files : List ClientFile) (group : Text) :
    Option ClientFile :=
  (((Api.grouped ops).map Prod.fst).zip files).lookup group

/-- The file of a group's actions among the files of a client. -/
def actionsFile? (ops : List Operation) (files : List ClientFile) (group : Text) :
    Option ClientFile :=
  operationsFile? ops (files.drop ((Api.grouped ops).length + 2)) group

/-- The file of types among the files of a client. -/
def typesFile? (ops : List Operation) (files : List ClientFile) : Option ClientFile :=
  files[(Api.grouped ops).length]?

/-- What is made for a group is found under its name. -/
theorem exists_lookup_zip_of_mapM {α β : Type} {f : Text × α → Result β}
    {groups : List (Text × α)} {made : List β} {members : α} (h : groups.mapM f = .ok made)
    (hgroup : groups.lookup group = some members) (more : List β) :
    ∃ b, f (group, members) = .ok b ∧
      ((groups.map Prod.fst).zip (made ++ more)).lookup group = some b := by
  induction Result.mapM_eq_ok_iff.mp h with
  | nil => cases hgroup
  | @cons pair b groups made hb hmade ih =>
      obtain ⟨name, first⟩ := pair
      by_cases hname : group = name
      · subst hname
        obtain rfl : first = members := by simpa using hgroup
        exact ⟨b, hb, by simp⟩
      · rw [List.lookup_cons, beq_false_of_ne hname] at hgroup
        obtain ⟨c, hc, hlookup⟩ := ih (Result.mapM_eq_ok_iff.mpr hmade) hgroup
        refine ⟨c, hc, ?_⟩
        rw [List.map_cons, List.cons_append, List.zip_cons_cons, List.lookup_cons,
          beq_false_of_ne hname]
        exact hlookup

/-- The members of a group that an operation has. -/
theorem lookup_grouped_of_mem {op : Operation} (hop : op ∈ ops) :
    (Api.grouped ops).lookup op.group = some (ops.filter (·.group == op.group)) := by
  have hmem : op ∈ ops.filter (·.group == op.group) := List.mem_filter.mpr ⟨hop, beq_self_eq_true _⟩
  rw [Api.lookup_grouped, if_neg]
  simpa using List.ne_nil_of_mem hmem

/-- **Where the files of a client are.** Every group of operations has its file, and its file of
actions if these are asked for; behind the files of the groups stands that of the types. -/
theorem exists_files (h : (clientFiles document options).result = .ok files) :
    ∃ ops, Api.findOperations document = .ok ops ∧
      (∀ op ∈ ops, ∃ file, operationsFile? ops files op.group = some file ∧
        operationsFile document options (op.group, ops.filter (·.group == op.group)) = .ok file) ∧
      (options.redux.isTrue = true →
        ∀ op ∈ ops, ∃ file, actionsFile? ops files op.group = some file ∧
          actionsFile document options (op.group, ops.filter (·.group == op.group)) = .ok file) ∧
      ∃ file, typesFile? ops files = some file ∧
        (typesFile document ops options).result = .ok file := by
  obtain ⟨ops, operations, types, descriptor, actions, hops, hoperations, htypes, -, hactions,
    rfl⟩ := result_clientFiles_eq_ok_iff.mp h
  have hlength : (Api.grouped ops).length = operations.length :=
    (Result.mapM_eq_ok_iff.mp hoperations).length_eq
  refine ⟨ops, hops, fun op hop => ?_, fun hredux op hop => ?_, types, ?_, htypes⟩
  · obtain ⟨file, hfile, hlookup⟩ := exists_lookup_zip_of_mapM hoperations
      (lookup_grouped_of_mem hop) ([types, descriptor] ++ actions)
    rw [← List.append_assoc] at hlookup
    exact ⟨file, hlookup, hfile⟩
  · rw [if_pos hredux] at hactions
    obtain ⟨file, hfile, hlookup⟩ := exists_lookup_zip_of_mapM hactions
      (lookup_grouped_of_mem hop) []
    refine ⟨file, ?_, hfile⟩
    have hdrop : (operations ++ [types, descriptor] ++ actions).drop
        ((Api.grouped ops).length + 2) = actions := by
      rw [hlength]
      exact List.drop_left' (by simp)
    rw [actionsFile?, hdrop]
    rwa [List.append_nil] at hlookup
  · rw [typesFile?, hlength]
    simp

/-! ### The source of a description -/

section Source

variable {a b : Option Text}

/-- The reusable parts of a description stay as they are, and with them the schemas. -/
theorem components_of_opensOutward (hdocument : OpensOutward document)
    (h : withDerivedFields document a = .ok d) : Api.components d = Api.components document := by
  rw [Api.components, Api.components, Api.field_of_opensOutward hdocument h (by decide)]

/-- The schemas stay as they are. -/
theorem schemas_of_opensOutward (hdocument : OpensOutward document)
    (h : withDerivedFields document a = .ok d) : Api.schemas d = Api.schemas document := by
  rw [Api.schemas, Api.schemas, components_of_opensOutward hdocument h]

/-- The operations stay as they are. -/
theorem findOperations_of_opensOutward (hdocument : OpensOutward document)
    (h : withDerivedFields document a = .ok d) :
    Api.findOperations d = Api.findOperations document := by
  refine Api.findOperations_congr ?_ (Api.field_of_opensOutward hdocument h (by decide))
  rw [Api.paths, Api.paths, Api.field_of_opensOutward hdocument h (by decide)]

/-- Every descriptor can be written. -/
theorem exists_written_descriptor (view : Client.DescriptorView) (options : Options) :
    ∃ contents, written Template.descriptor view.toValue options = .ok contents := by
  obtain ⟨typed, statementEnd, text⟩ := view
  cases typed <;> exact ⟨_, rfl⟩

/-- The descriptors of a description from two sources have one path. -/
theorem agree_descriptorFile (hdocument : OpensOutward document)
    (ha : withDerivedFields document a = .ok d) (hb : withDerivedFields document b = .ok d')
    (options : Options) :
    Agree (fun file file' => file'.path = file.path) (descriptorFile d options)
      (descriptorFile d' options) := by
  have hcomponents := (components_of_opensOutward hdocument ha).trans
    (components_of_opensOutward hdocument hb).symm
  refine (Client.agree_descriptorView ha hb hcomponents options).bind fun view view' _ => ?_
  obtain ⟨contents, hcontents⟩ := exists_written_descriptor view options
  obtain ⟨contents', hcontents'⟩ := exists_written_descriptor view' options
  rw [hcontents, hcontents']
  exact .ok rfl

/-- The clients of a description from two sources end alike, and all their files but the descriptors
are the same. -/
theorem agree_of_sources (hdocument : OpensOutward document)
    (ha : withDerivedFields document a = .ok d) (hb : withDerivedFields document b = .ok d')
    (options : Options) :
    Agree (FilesAgree Eq fun file file' => file'.path = file.path)
      (clientFiles d options).result (clientFiles d' options).result := by
  have hops := (findOperations_of_opensOutward hdocument ha).trans
    (findOperations_of_opensOutward hdocument hb).symm
  have hschemas := (schemas_of_opensOutward hdocument ha).trans
    (schemas_of_opensOutward hdocument hb).symm
  refine agree_clientFiles hops rfl (fun group => ?_) (fun ops => ?_)
    (agree_descriptorFile hdocument ha hb options) (fun group => ?_)
  · rw [operationsFile_congr hschemas]
    exact .refl (fun _ => rfl) _
  · rw [typesFile_congr hschemas]
    exact .refl (fun _ => rfl) _
  · rw [actionsFile_congr hschemas]
    exact .refl (fun _ => rfl) _

end Source

/-! ### Locality -/

/-- Two clients of descriptions with the same schemas: a group with the same operations in both has
the same files, and with the same operations in all groups the file of types is the same. -/
theorem exists_files_of_schemas (h : (clientFiles d options).result = .ok files)
    (h' : (clientFiles d' options).result = .ok files')
    (hschemas : Api.schemas d = Api.schemas d') :
    ∃ ops ops', Api.findOperations d = .ok ops ∧ Api.findOperations d' = .ok ops' ∧
      (∀ op ∈ ops, ops.filter (·.group == op.group) = ops'.filter (·.group == op.group) →
        (∃ file, operationsFile? ops files op.group = some file ∧
          operationsFile? ops' files' op.group = some file) ∧
        (options.redux.isTrue = true →
          ∃ file, actionsFile? ops files op.group = some file ∧
            actionsFile? ops' files' op.group = some file)) ∧
      (ops = ops' →
        ∃ file, typesFile? ops files = some file ∧ typesFile? ops' files' = some file) := by
  obtain ⟨ops, hops, hoperations, hactions, types, htypes, hmadeTypes⟩ := exists_files h
  obtain ⟨ops', hops', hoperations', hactions', types', htypes', hmadeTypes'⟩ := exists_files h'
  refine ⟨ops, ops', hops, hops', fun op hop hsame => ?_, ?_⟩
  · have hop' : op ∈ ops' := by
      have hmem : op ∈ ops.filter (·.group == op.group) :=
        List.mem_filter.mpr ⟨hop, beq_self_eq_true _⟩
      exact (List.mem_filter.mp (hsame ▸ hmem)).1
    refine ⟨?_, fun hredux => ?_⟩
    · obtain ⟨file, hfile, hmade⟩ := hoperations op hop
      obtain ⟨file', hfile', hmade'⟩ := hoperations' op hop'
      rw [hsame, operationsFile_congr hschemas, hmade'] at hmade
      obtain rfl := Except.ok.inj hmade
      exact ⟨file', hfile, hfile'⟩
    · obtain ⟨file, hfile, hmade⟩ := hactions hredux op hop
      obtain ⟨file', hfile', hmade'⟩ := hactions' hredux op hop'
      rw [hsame, actionsFile_congr hschemas, hmade'] at hmade
      obtain rfl := Except.ok.inj hmade
      exact ⟨file', hfile, hfile'⟩
  · rintro rfl
    rw [typesFile_congr hschemas, hmadeTypes'] at hmadeTypes
    obtain rfl := Except.ok.inj hmadeTypes
    exact ⟨types', htypes, htypes'⟩

/-- **A file shows what it is about.** A group with the same operations in two descriptions with the
same schemas has the same files in their clients, and if all operations are the same, so is the file
of types. Where a description does not lead back to itself, the derived fields change neither its
operations nor its definitions, and two sources give clients that end alike, with the same paths and
the same files but for the descriptor. -/
theorem clientFiles_local :
    (∀ (d d' : Value) (options : Options) (files files' : List ClientFile),
      (clientFiles d options).result = .ok files → (clientFiles d' options).result = .ok files' →
      Api.schemas d = Api.schemas d' →
      ∃ ops ops', Api.findOperations d = .ok ops ∧ Api.findOperations d' = .ok ops' ∧
        (∀ op ∈ ops, ops.filter (·.group == op.group) = ops'.filter (·.group == op.group) →
          (∃ file, operationsFile? ops files op.group = some file ∧
            operationsFile? ops' files' op.group = some file) ∧
          (options.redux.isTrue = true →
            ∃ file, actionsFile? ops files op.group = some file ∧
              actionsFile? ops' files' op.group = some file)) ∧
        (ops = ops' →
          ∃ file, typesFile? ops files = some file ∧ typesFile? ops' files' = some file)) ∧
    (∀ (document : Value) (a b : Option Text) (d d' : Value), OpensOutward document →
      withDerivedFields document a = .ok d → withDerivedFields document b = .ok d' →
      Api.operations d = Api.operations document ∧
      (∀ ops, Client.definitions d ops = Client.definitions document ops) ∧
      ∀ options, Agree (FilesAgree Eq fun file file' => file'.path = file.path)
        (clientFiles d options).result (clientFiles d' options).result) := by
  refine ⟨fun d d' options files files' => exists_files_of_schemas,
    fun document a b d d' hdocument ha hb => ⟨?_, ?_, agree_of_sources hdocument ha hb⟩⟩
  · rw [Api.operations, Api.operations, findOperations_of_opensOutward hdocument ha]
  · exact Client.definitions_congr (schemas_of_opensOutward hdocument ha)

/-- The client of a description with one operation has the same file of pets from a file and from an
address, and the same files but for the descriptor. -/
theorem clientFiles_local_pets : ∃ d d' ops files files' file,
    withDerivedFields (taggedDocument "pets") none = .ok d ∧
      withDerivedFields (taggedDocument "pets") (some "http://pets.org/api.yaml") = .ok d' ∧
      (clientFiles d (.usual "out")).result = .ok files ∧
      (clientFiles d' (.usual "out")).result = .ok files' ∧
      operationsFile? ops files (Text.ofString "pets") = some file ∧
      operationsFile? ops files' (Text.ofString "pets") = some file ∧
      FilesAgree Eq (fun file file' => file'.path = file.path) files files' := by
  obtain ⟨hfiles, hsources⟩ := clientFiles_local
  have hd : withDerivedFields (taggedDocument "pets") none = .ok _ := rfl
  have hd' : withDerivedFields (taggedDocument "pets") (some "http://pets.org/api.yaml") =
    .ok _ := rfl
  have hok : (withDerivedFields (taggedDocument "pets") none >>= fun d =>
      (clientFiles d (.usual "out")).result).isOk = true := by
    decide +kernel
  rw [hd, Result.ok_bind] at hok
  obtain ⟨files, hmade⟩ := Result.exists_eq_ok_of_isOk hok
  obtain ⟨-, -, hagree⟩ := hsources _ none _ _ _ (.plain _) hd hd'
  obtain ⟨files', hmade', hsame⟩ := (hagree (.usual "out")).exists_of_eq_ok hmade
  obtain ⟨ops, ops', hops, hops', hgroups, -⟩ := hfiles _ _ _ _ _ hmade hmade' rfl
  obtain rfl := Except.ok.inj hops
  obtain rfl := Except.ok.inj hops'
  obtain ⟨⟨file, hfile, hfile'⟩, -⟩ := hgroups _ List.mem_cons_self rfl
  exact ⟨_, _, _, files, files', file, hd, hd', hmade, hmade', hfile, hfile', hsame⟩

/-- A description with given fields besides its paths. The only parameter of its only operation has
the description as its default value. -/
def selfContaining (fields : List (Text × Value)) : Value :=
  .looped [(0, record (("paths", .link 1) :: fields)), (1, record [("/pets", .link 2)]),
    (2, record [("get", .link 3)]),
    (3, record [("operationId", .str "listPets"), ("parameters", .link 4)]),
    (4, .list [.link 5]),
    (5, record [("name", .str "filter"), ("in", .str "query"), ("default", .link 0)])] 0

/-- The derived fields of such a description from a host. -/
def hostedAt (host : Text) : List (Text × Value) :=
  [("basePath", .str []), ("host", .str host), ("schemes", .list [.str "http"]),
    ("accepts", .list [.str "application/json"]), ("contentTypes", .list [])]

/-- Whether two runs end well with first files that have a given path and other contents. -/
def firstDiffers (path : Path) (x y : Result (List ClientFile)) : Bool :=
  match x, y with
  | .ok files, .ok files' =>
    files.head?.map ClientFile.path == some path && files'.head?.map ClientFile.path == some path &&
      files.head?.map ClientFile.contents != files'.head?.map ClientFile.contents
  | _, _ => false

/-- Two runs that pass this test have different contents in their first file. -/
theorem firstDiffers_eq_true {path : Path} {x y : Result (List ClientFile)}
    (h : firstDiffers path x y = true) :
    ∃ files files', x = .ok files ∧ y = .ok files' ∧
      files.head?.map ClientFile.path = some path ∧
      files'.head?.map ClientFile.path = some path ∧
      files.head?.map ClientFile.contents ≠ files'.head?.map ClientFile.contents := by
  unfold firstDiffers at h
  split at h
  · next files files' =>
    rw [Bool.and_eq_true, Bool.and_eq_true, beq_iff_eq, beq_iff_eq, bne_iff_ne] at h
    exact ⟨files, files', rfl, rfl, h.1.1, h.1.2, h.2⟩
  · cases h

/-- **A source that shows.** A default value that leads back to the description is written in the
comment of the operation's function, with the host of the source among its fields. -/
theorem exists_source_shown : ∃ d d' files files',
    withDerivedFields (selfContaining []) none = .ok d ∧
      withDerivedFields (selfContaining []) (some "http://pets.org/api.yaml") = .ok d' ∧
      (clientFiles d (.usual "out")).result = .ok files ∧
      (clientFiles d' (.usual "out")).result = .ok files' ∧
      files.head?.map ClientFile.path = some ((Path.ofText "out").child "default.ts") ∧
      files'.head?.map ClientFile.path = some ((Path.ofText "out").child "default.ts") ∧
      files.head?.map ClientFile.contents ≠ files'.head?.map ClientFile.contents := by
  have hd : withDerivedFields (selfContaining []) none =
    .ok (selfContaining (hostedAt "localhost")) := rfl
  have hd' : withDerivedFields (selfContaining []) (some "http://pets.org/api.yaml") =
    .ok (selfContaining (hostedAt "pets.org")) := rfl
  have hdiffer : firstDiffers ((Path.ofText "out").child "default.ts")
      (clientFiles (selfContaining (hostedAt "localhost")) (.usual "out")).result
      (clientFiles (selfContaining (hostedAt "pets.org")) (.usual "out")).result = true := by
    decide +kernel
  obtain ⟨files, files', hfiles, hfiles', hdiffer⟩ := firstDiffers_eq_true hdiffer
  exact ⟨_, _, files, files', hd, hd', hfiles, hfiles', hdiffer⟩

end ClientScribe.Output
