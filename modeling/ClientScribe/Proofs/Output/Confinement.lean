import ClientScribe.Proofs.Api.Endpoints
import ClientScribe.Proofs.Identifier.Group
import ClientScribe.Proofs.Output.Written

/-!
# Where a Client Stands

A tag is arbitrary text, and the name of a file is made of it. Behind a directory a text can lead
anywhere: it can start at the root, go down several steps, or lead back (`Path.join`). The name of a
group cannot, as it is plain: such a name is one step (`join_fileName`), and the step leads to a
place directly beneath the directory.

* `map_path_eq_join`: the paths of a client, as the texts of their names are read behind its
  directory;
* `paths_confined`: every one of them leads to a place in the directory of the client or in one of
  two fixed directories beneath it.
-/

namespace ClientScribe.Store

variable {path : Path} {text : Text}

/-- The path that a text leads to from another path; a text that starts with a slash starts at the
root. -/
def Path.join (path : Path) (text : Text) : Path :=
  if 0 < (Path.ofText text).slashes then .ofText text else path.beneath (Path.ofText text).names

/-- A text without a slash is one part. -/
theorem slashParts_of_notMem (h : .char '/' ∉ text) : slashParts text = [text] := by
  induction text with
  | nil => rfl
  | cons c text ih =>
      obtain ⟨hc, htext⟩ := List.ne_and_not_mem_of_not_mem_cons h
      rw [slashParts, ih htext, if_neg (by simpa using hc.symm)]

/-- A text that names a step and has no slash leads one step further. -/
theorem Path.join_eq_child (path : Path) (hslash : .char '/' ∉ text)
    (hname : Path.isName text = true) : path.join text = path.child text := by
  have hslashes : text.takeWhile (· == CodePoint.char '/') = [] := by
    cases text with
    | nil => rfl
    | cons c text =>
        obtain ⟨hc, -⟩ := List.ne_and_not_mem_of_not_mem_cons hslash
        rw [List.takeWhile_cons_of_neg (by simpa using hc.symm)]
  have hpath : Path.ofText text = ⟨0, [text]⟩ := by
    simp [Path.ofText, hslashes, slashParts_of_notMem hslash, hname]
  rw [Path.join, hpath, if_neg (Nat.lt_irrefl 0), Path.child_eq_beneath]

/-- A step that does not lead back leads to the place directly beneath. -/
theorem destination_child {name : Text} (h : name ≠ dots) (path : Path) :
    destination (path.child name) =
      { destination path with names := (destination path).names ++ [name] } := by
  have hdots : dots ∉ [name] := by simpa using h.symm
  rw [Path.child_eq_beneath, destination, Path.beneath, List.foldl_append,
    foldl_step_of_dots_notMem hdots]
  rfl

end ClientScribe.Store

namespace ClientScribe.Output

open Api (Operation)
open Document (Value)
open Identifier (IsPlainName)
open Store (Path destination)

variable {document : Value} {options : Options} {ops : List Operation} {op : Operation}
  {files : List ClientFile} {group name : Text}

/-- The characters that mean something in a path. -/
def pathCharacters : List Char := ['/', '\\', '.', Char.ofNat 0]

/-! ### Names of groups -/

/-- The groups of a description have plain names. -/
theorem isPlainName_of_mem_groups (hops : Api.findOperations document = .ok ops)
    (h : group ∈ ops.map Operation.group) : IsPlainName group := by
  obtain ⟨op, hop, rfl⟩ := List.mem_map.mp h
  exact Identifier.isPlainName_of_groupName (Api.groupName_of_mem hops hop)

/-- A plain name has no character that means something in a path. -/
theorem pathCharacters_notMem (h : IsPlainName name) : ∀ c ∈ pathCharacters, .char c ∉ name := by
  have hplain : pathCharacters.all (!Identifier.isPlainKeyChar ·) = true := by decide
  exact fun c hc => h.notMem (by simpa using List.all_eq_true.mp hplain c hc)

/-! ### Names of files -/

/-- The name of a file has no slash if it is made of a name without one. -/
theorem slash_notMem_fileName (h : .char '/' ∉ name) (options : Options) :
    .char '/' ∉ fileName name options := by
  cases hlanguage : options.language <;>
    simp [fileName, Options.extension, hlanguage, Language.name, h, Text.ofString, Text.ofChars]

/-- The name of a file names a step. -/
theorem isName_fileName (name : Text) (options : Options) :
    Path.isName (fileName name options) = true := by
  have hends : (fileName name options).getLast? = some (.char 's') := by
    cases hlanguage : options.language <;>
      simp [fileName, Options.extension, hlanguage, Language.name, Text.ofString, Text.ofChars]
  have hnil : fileName name options ≠ [] := by
    intro h
    rw [h] at hends
    cases hends
  have hdot : fileName name options ≠ Text.ofString "." := by
    intro h
    rw [h] at hends
    cases hends
  simp [Path.isName, hnil, hdot]

/-- **A file is one step from its directory.** -/
theorem join_fileName (h : .char '/' ∉ name) (options : Options) (path : Path) :
    path.join (fileName name options) = path.beneath [fileName name options] :=
  path.join_eq_child (slash_notMem_fileName h options) (isName_fileName name options)

/-- The directories of a client: its own, and two fixed ones beneath it. -/
def clientDirectories (outDir : Path) : List Path :=
  [outDir, outDir.join "gateway", outDir.join "action"]

/-- The directory of the service is one step beneath that of the client. -/
theorem join_gateway (path : Path) : path.join "gateway" = path.beneath ["gateway"] :=
  path.join_eq_child (by decide) (by decide)

/-- The directory of the actions is one step beneath that of the client. -/
theorem join_action (path : Path) : path.join "action" = path.beneath ["action"] :=
  path.join_eq_child (by decide) (by decide)

/-! ### The layout -/

/-- **The layout of a client.** The names of the groups, each once and in the order in which they
first come up, give the files of the operations and, if they are asked for, those of the actions. -/
theorem map_path_eq_join (hops : Api.findOperations document = .ok ops)
    (h : (clientFiles document options).result = .ok files) :
    files.map ClientFile.path =
      ((ops.map Operation.group).eraseDups.map fun group =>
          options.outDir.join (fileName group options)) ++
        [options.outDir.join (fileName "types" options),
          (options.outDir.join "gateway").join (fileName "spec" options)] ++
        if options.redux.isTrue then
          (ops.map Operation.group).eraseDups.map fun group =>
            (options.outDir.join "action").join (fileName group options)
        else [] := by
  have hgroup (directory : Path) : ∀ group ∈ (ops.map Operation.group).eraseDups,
      directory.join (fileName group options) = directory.beneath [fileName group options] := by
    intro group hmem
    have hplain := isPlainName_of_mem_groups hops (List.mem_eraseDups.mp hmem)
    exact join_fileName (pathCharacters_notMem hplain '/' (by decide)) options directory
  have hfixed : .char '/' ∉ Text.ofString "types" ∧ .char '/' ∉ Text.ofString "spec" := by decide
  have htypes := join_fileName hfixed.1 options options.outDir
  have hspec := join_fileName hfixed.2 options (options.outDir.join "gateway")
  rw [map_path_of_clientFiles hops h, Api.map_fst_grouped, fileSteps,
    List.map_congr_left (hgroup options.outDir),
    List.map_congr_left (hgroup (options.outDir.join "action")), htypes, hspec, join_gateway,
    join_action]
  split <;> simp [Function.comp_def]

/-- A file of a client is one step from a directory of the client. -/
theorem exists_child_of_mem_paths (hops : Api.findOperations document = .ok ops)
    (h : (clientFiles document options).result = .ok files) {path : Path}
    (hpath : path ∈ files.map ClientFile.path) :
    ∃ directory ∈ clientDirectories options.outDir, ∃ name, .char '/' ∉ name ∧
      path = directory.child (fileName name options) := by
  have hgroup {group : Text} (hmem : group ∈ (ops.map Operation.group).eraseDups) :
      .char '/' ∉ group :=
    pathCharacters_notMem (isPlainName_of_mem_groups hops (List.mem_eraseDups.mp hmem)) '/'
      (by decide)
  have hfixed : .char '/' ∉ Text.ofString "types" ∧ .char '/' ∉ Text.ofString "spec" := by decide
  rw [map_path_eq_join hops h] at hpath
  simp only [List.append_assoc, List.mem_append, List.mem_map, List.mem_cons, List.not_mem_nil,
    or_false] at hpath
  obtain ⟨group, hmem, rfl⟩ | (rfl | rfl) | hpath := hpath
  · exact ⟨_, List.mem_cons_self, group, hgroup hmem, join_fileName (hgroup hmem) options _⟩
  · exact ⟨_, List.mem_cons_self, _, hfixed.1, join_fileName hfixed.1 options _⟩
  · exact ⟨_, List.mem_cons_of_mem _ List.mem_cons_self, _, hfixed.2,
      join_fileName hfixed.2 options _⟩
  · split at hpath
    · obtain ⟨group, hmem, rfl⟩ := List.mem_map.mp hpath
      exact ⟨_, by simp [clientDirectories], group, hgroup hmem,
        join_fileName (hgroup hmem) options _⟩
    · cases hpath

/-- **The files of a client stay where they belong.** Whatever the tags say, the paths are those of
the groups in the order in which they first come up, of the types and the descriptor, and of the
actions if they are asked for. No name of a group is empty or has a character that means something
in a path, and every path leads to a place directly beneath one of the directories of the client. -/
theorem paths_confined (h : (clientFiles document options).result = .ok files) :
    ∃ ops, Api.findOperations document = .ok ops ∧
      files.map ClientFile.path =
        ((ops.map Operation.group).eraseDups.map fun group =>
            options.outDir.join (fileName group options)) ++
          [options.outDir.join (fileName "types" options),
            (options.outDir.join "gateway").join (fileName "spec" options)] ++
          (if options.redux.isTrue then
            (ops.map Operation.group).eraseDups.map fun group =>
              (options.outDir.join "action").join (fileName group options)
          else []) ∧
      (∀ group ∈ (ops.map Operation.group).eraseDups,
        group ≠ [] ∧ ∀ c ∈ pathCharacters, .char c ∉ group) ∧
      ∀ path ∈ files.map ClientFile.path, ∃ directory ∈ clientDirectories options.outDir,
        path.parent = directory ∧ .char '/' ∉ path.name ∧
          destination path =
            { destination directory with
              names := (destination directory).names ++ [path.name] } := by
  obtain ⟨ops, -, -, -, -, hops, -⟩ := result_clientFiles_eq_ok_iff.mp h
  refine ⟨ops, hops, map_path_eq_join hops h, fun group hmem => ?_, fun path hpath => ?_⟩
  · have hplain := isPlainName_of_mem_groups hops (List.mem_eraseDups.mp hmem)
    exact ⟨hplain.ne_nil, pathCharacters_notMem hplain⟩
  · obtain ⟨directory, hdirectory, name, hslash, rfl⟩ := exists_child_of_mem_paths hops h hpath
    have hname : (directory.child (fileName name options)).name = fileName name options := by
      simp [Path.child, Path.name]
    have hparent : (directory.child (fileName name options)).parent = directory := by
      simp [Path.child, Path.parent]
    rw [hname]
    exact ⟨directory, hdirectory, hparent, slash_notMem_fileName hslash options,
      Store.destination_child (fileName_ne_dots name options).symm directory⟩

/-- Options of a client with actions. -/
def withActions (outDir : Text) : Options :=
  { Options.usual outDir with redux := .bool true }

/-- A tag that reads as a way out of the directory is the name of a group inside it. -/
theorem paths_confined_dottedTag : ∃ files,
    (clientFiles (taggedDocument "../../etc/passwd") (withActions "out")).result = .ok files ∧
      files.map ClientFile.path = [⟨0, ["out", "etcpasswd.ts"]⟩, ⟨0, ["out", "types.ts"]⟩,
        ⟨0, ["out", "gateway", "spec.ts"]⟩, ⟨0, ["out", "action", "etcpasswd.ts"]⟩] ∧
      ∀ path ∈ files.map ClientFile.path, path.parent ∈ clientDirectories (.ofText "out") := by
  obtain ⟨files, hfiles⟩ := Result.exists_eq_ok_of_isOk
    (x := (clientFiles (taggedDocument "../../etc/passwd") (withActions "out")).result)
    (by decide +kernel)
  obtain ⟨ops, hops, hpaths, -, hinside⟩ := paths_confined hfiles
  obtain rfl := Except.ok.inj hops
  refine ⟨files, hfiles, hpaths.trans (by decide +kernel), fun path hpath => ?_⟩
  obtain ⟨directory, hdirectory, rfl, -⟩ := hinside path hpath
  exact hdirectory

end ClientScribe.Output
