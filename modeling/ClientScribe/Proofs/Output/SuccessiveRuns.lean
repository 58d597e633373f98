import ClientScribe.Proofs.Output.Atomicity
import ClientScribe.Proofs.Output.Encoding

/-!
# Runs One After the Other

What a run leaves of a store can be said place by place, without the order of its writes: a place
has the bytes that the last file with that place has, and otherwise what it had before
(`fileAt?_writeFiles_eq`); the directories are those that were there and those on the way of a file
(`at?_writeFiles_eq_directory_iff`). Whether a run succeeds can be said of the store in front of it
too (`result_writeFiles_eq_ok_iff`), and a run takes nothing away that another run in the same
directory needs (`canBeWritten_writeFiles`).

So places that no file of a run has keep what they hold, a second run of the same client changes
nothing, and clients in two languages, whose files never share a place as their extensions differ,
can be written in either order (`successive_runs`).
-/

namespace ClientScribe.Store

variable {s s' t : Store} {q : Place} {path other : Path} {contents : ByteArray}

/-- A path reads as a file if it has its place and the file is there. -/
theorem read?_eq_ok_iff : s.read? path = .ok contents ↔
    s.locate path = .ok (destination path) ∧ s.fileAt? (destination path) = some contents := by
  constructor
  · intro h
    obtain ⟨place, hplace, h⟩ := Result.bind_eq_ok_iff.mp h
    obtain rfl := locate_eq_destination hplace
    refine ⟨hplace, ?_⟩
    split at h
    · next bytes hat =>
      obtain rfl := Except.ok.inj h
      exact at?_eq_file_iff.mp hat
    · cases h
    · cases h
  · rintro ⟨hplace, hfile⟩
    exact read?_eq_ok hplace hfile

/-- Stores with the same files and the same directories have the same at every place. -/
theorem at?_eq_of_fileAt?_eq (hfile : s.fileAt? q = t.fileAt? q)
    (hdirectory : s.at? q = some .directory ↔ t.at? q = some .directory) : s.at? q = t.at? q := by
  cases hs : s.fileAt? q with
  | some contents =>
      rw [at?_eq_file_iff.mpr hs, at?_eq_file_iff.mpr (hfile ▸ hs)]
  | none =>
      have ht : t.fileAt? q = none := hfile ▸ hs
      rw [at?_eq_directory_iff, at?_eq_directory_iff, hs, ht] at hdirectory
      simp only [at?, hs, ht]
      simp only [true_and] at hdirectory
      simp [hdirectory]

/-- A path that is open behind a write was open before. -/
theorem IsOpen.of_writeDeep (h : IsOpen s' other)
    (hwritten : s.writeDeep path contents = (s', .ok ())) : IsOpen s other := by
  obtain ⟨hkeep, -, hself, hrest⟩ := writeDeep_eq_ok hwritten
  refine { h with
    free := fun q hq => ?_
    notDirectory := fun hat => h.notDirectory (hkeep _ hat) }
  have hne : q ≠ destination path := by
    rintro rfl
    rw [h.free _ hq] at hself
    cases hself
  rw [← hrest q hne]
  exact h.free q hq

end ClientScribe.Store

namespace ClientScribe.Output

open Document (Value)
open Store (Path Place CanBeWritten IsOpen destination wayTo)

variable {document document' : Value} {options options' : Options} {file other : ClientFile}
  {files files' : List ClientFile} {paths paths' : List Path} {path : Path} {q : Place}
  {s s' t : Store}

/-! ### What a run leaves, place by place -/

/-- The bytes that the last of some files puts at a place. -/
def lastWritten (q : Place) : List ClientFile → Option ByteArray
  | [] => none
  | file :: files =>
    (lastWritten q files).or (if destination file.path = q then file.contents.utf8? else none)

/-- **The files behind a run**: a place has the last bytes that are put there, or what it had. -/
theorem fileAt?_writeFiles_eq (h : (writeFiles s files).2.result = .ok ()) (q : Place) :
    (writeFiles s files).1.fileAt? q = (lastWritten q files).or (s.fileAt? q) := by
  induction files generalizing s with
  | nil => rfl
  | cons file files ih =>
      obtain ⟨between, hfile, hfiles, heq⟩ := writeFiles_cons h
      obtain ⟨bytes, hbytes, hwritten⟩ := writeFile_eq_ok hfile
      obtain ⟨-, -, hself, hrest⟩ := Store.writeDeep_eq_ok hwritten
      have hbetween : between.fileAt? q =
          (if destination file.path = q then file.contents.utf8? else none).or (s.fileAt? q) := by
        split
        · next hplace => rw [← hplace, hself, hbytes, Option.some_or]
        · next hplace => rw [hrest q (Ne.symm hplace), Option.none_or]
      rw [heq, ih hfiles, hbetween, lastWritten, Option.or_assoc]

/-- Where no file has its place nothing is put. -/
theorem lastWritten_eq_none (h : ∀ file ∈ files, destination file.path ≠ q) :
    lastWritten q files = none := by
  induction files with
  | nil => rfl
  | cons file files ih =>
      rw [List.forall_mem_cons] at h
      rw [lastWritten, ih h.2, if_neg h.1, Option.none_or]

/-- **The directories behind a run**: those that were there and those on the way of a file. -/
theorem at?_writeFiles_eq_directory_iff (hnames : ∀ file ∈ files, file.path.names ≠ [])
    (h : (writeFiles s files).2.result = .ok ()) :
    (writeFiles s files).1.at? q = some .directory ↔
      s.at? q = some .directory ∨ ∃ file ∈ files, q ∈ wayTo file.path := by
  induction files generalizing s with
  | nil => simp [writeFiles]
  | cons file files ih =>
      obtain ⟨between, hfile, hfiles, heq⟩ := writeFiles_cons h
      obtain ⟨bytes, -, hwritten⟩ := writeFile_eq_ok hfile
      rw [List.forall_mem_cons] at hnames
      rw [heq, ih hnames.2 hfiles, Store.at?_writeDeep_eq_directory_iff hnames.1 hwritten]
      simp [or_assoc]

/-! ### When a run succeeds -/

/-- The paths of a run that succeeds were open, and its texts have bytes. -/
theorem isOpen_of_writeFiles (hnames : ∀ file ∈ files, file.path.names ≠ [])
    (h : (writeFiles s files).2.result = .ok ()) :
    ∀ file ∈ files, IsOpen s file.path ∧ file.contents.utf8?.isSome = true := by
  induction files generalizing s with
  | nil => simp
  | cons file files ih =>
      obtain ⟨between, hfile, hfiles, -⟩ := writeFiles_cons h
      obtain ⟨bytes, hbytes, hwritten⟩ := writeFile_eq_ok hfile
      rw [List.forall_mem_cons] at hnames ⊢
      have hopen : IsOpen s file.path :=
        (Store.writeDeep_eq_ok_iff hnames.1).mp (congrArg Prod.snd hwritten)
      refine ⟨⟨hopen, by rw [hbytes]; rfl⟩, fun other hother => ?_⟩
      obtain ⟨hopen, hbytes⟩ := ih hnames.2 hfiles other hother
      exact ⟨hopen.of_writeDeep hwritten, hbytes⟩

/-- **When the files of a client are written**: exactly when all its paths can be written in the
store as it is and all its texts have bytes. -/
theorem result_writeFiles_eq_ok_iff (h : (clientFiles document options).result = .ok files) :
    (writeFiles s files).2.result = .ok () ↔
      ∀ file ∈ files, CanBeWritten s file.path ∧ file.contents.utf8?.isSome = true := by
  have hnames (file : ClientFile) (hfile : file ∈ files) := names_ne_nil_of_mem h hfile
  constructor
  · intro hwritten file hfile
    obtain ⟨hopen, hbytes⟩ := isOpen_of_writeFiles hnames hwritten file hfile
    exact ⟨(Store.canBeWritten_iff (hnames file hfile)).mpr hopen, hbytes⟩
  · intro hready
    exact (writable_of_clientFiles h fun file hfile => (hready file hfile).1).writeFiles
      fun file hfile => (hready file hfile).2

/-- A run leaves a path that can be written if none of its files stands on the way there and its
place is on the way of none. -/
theorem canBeWritten_of_writeFiles (hnames : path.names ≠ [])
    (hway : ∀ file ∈ files, destination file.path ∉ wayTo path)
    (hplace : ∀ file ∈ files, destination path ∉ wayTo file.path) (hpath : CanBeWritten s path)
    (h : (writeFiles s files).2.result = .ok ()) : CanBeWritten (writeFiles s files).1 path := by
  induction files generalizing s with
  | nil => exact hpath
  | cons file files ih =>
      obtain ⟨between, hfile, hfiles, heq⟩ := writeFiles_cons h
      obtain ⟨bytes, -, hwritten⟩ := writeFile_eq_ok hfile
      rw [List.forall_mem_cons] at hway hplace
      rw [heq]
      exact ih hway.2 hplace.2 (hpath.writeDeep hnames hway.1 hplace.1 hwritten) hfiles

/-- **A client can still be written behind another one** in the same directory. -/
theorem canBeWritten_writeFiles (h : (clientFiles document options).result = .ok files)
    (h' : (clientFiles document' options').result = .ok files')
    (hdirectory : options.outDir = options'.outDir)
    (hwritten : (writeFiles s files).2.result = .ok ()) (hother : other ∈ files')
    (hopen : CanBeWritten s other.path) : CanBeWritten (writeFiles s files).1 other.path := by
  have hnames := names_ne_nil_of_mem h' hother
  refine canBeWritten_of_writeFiles hnames (fun file hfile => ?_) (fun file hfile => ?_) hopen
    hwritten
  · have hready := (result_writeFiles_eq_ok_iff h).mp hwritten file hfile
    exact destination_notMem_wayTo h h' hdirectory hfile hother
      ((Store.canBeWritten_iff (names_ne_nil_of_mem h hfile)).mp hready.1)
  · exact destination_notMem_wayTo h' h hdirectory.symm hother hfile
      ((Store.canBeWritten_iff hnames).mp hopen)

/-! ### Runs that succeed -/

/-- A run writes the client of a description: it ends well with some paths and leaves a store. -/
structure Writes (s : Store) (document : Value) (options : Options) (paths : List Path)
    (s' : Store) : Prop where
  result : (writeClient s document options).2.result = .ok paths
  store : (writeClient s document options).1 = s'

/-- A run that succeeds has made the files of its client and writes them. -/
theorem Writes.exists_files (h : Writes s document options paths s') :
    ∃ files, (clientFiles document options).result = .ok files ∧
      (writeFiles s files).2.result = .ok () ∧ (writeFiles s files).1 = s' ∧
      paths = files.map ClientFile.path := by
  obtain ⟨hresult, rfl⟩ := h
  cases hfiles : (clientFiles document options).result with
  | error e =>
      rw [(writeClient_of_error hfiles).2] at hresult
      cases hresult
  | ok files =>
      obtain ⟨hwritten, hstore, hpaths⟩ := writeClient_eq_ok hfiles hresult
      exact ⟨files, rfl, hwritten, hstore.symm, hpaths⟩

/-- A run whose files are written succeeds. -/
theorem writes_of_writeFiles (h : (clientFiles document options).result = .ok files)
    (hwritten : (writeFiles s files).2.result = .ok ()) :
    Writes s document options (files.map ClientFile.path) (writeFiles s files).1 where
  result := by simp [writeClient, h, hwritten]
  store := by simp only [writeClient, h]

/-- Files in two languages have different names. -/
theorem fileName_ne_of_language (h : options.language ≠ options'.language) (name name' : Text) :
    fileName name options ≠ fileName name' options' := by
  intro heq
  have hlast := congrArg (fun text : Text => text.dropLast.getLast?) heq
  cases hlanguage : options.language <;> cases hlanguage' : options'.language <;>
    simp [hlanguage, hlanguage', fileName, Options.extension, Language.name, Text.ofString,
      Text.ofChars] at h hlast

/-- **Clients in two languages share no place.** -/
theorem destination_ne_of_language (h : (clientFiles document options).result = .ok files)
    (h' : (clientFiles document' options').result = .ok files')
    (hdirectory : options.outDir = options'.outDir)
    (hlanguage : options.language ≠ options'.language) (hfile : file ∈ files)
    (hother : other ∈ files') :
    destination file.path ≠ destination other.path := by
  obtain ⟨inner, name, hpath, hinner⟩ := exists_path_of_mem h hfile
  obtain ⟨inner', name', hpath', hinner'⟩ := exists_path_of_mem h' hother
  rw [hpath, hpath', ← hdirectory, Ne, Store.destination_beneath_inj
    (dots_notMem_of_inner hinner name options) (dots_notMem_of_inner hinner' name' options')]
  intro hsteps
  obtain ⟨-, hnames⟩ := List.append_inj' hsteps rfl
  exact fileName_ne_of_language hlanguage name name' (List.singleton_inj.mp hnames)

/-! ### One run behind another -/

/-- Behind a run, places of none of its paths have the files that they had. -/
theorem Writes.fileAt?_eq (h : Writes s document options paths s')
    (hq : ∀ path ∈ paths, destination path ≠ q) : s'.fileAt? q = s.fileAt? q := by
  obtain ⟨files, -, hwritten, rfl, rfl⟩ := h.exists_files
  rw [List.forall_mem_map] at hq
  rw [fileAt?_writeFiles_eq hwritten, lastWritten_eq_none hq, Option.none_or]

/-- Behind a run, paths that lead to other places read as they did. -/
theorem Writes.read?_eq_ok {contents : ByteArray} (h : Writes s document options paths s')
    (hpath : ∀ written ∈ paths, destination written ≠ destination path)
    (hread : s.read? path = .ok contents) : s'.read? path = .ok contents := by
  obtain ⟨hplace, hfile⟩ := Store.read?_eq_ok_iff.mp hread
  refine Store.read?_eq_ok_iff.mpr ⟨?_, (h.fileAt?_eq hpath).trans hfile⟩
  obtain ⟨files, -, hwritten, rfl, -⟩ := h.exists_files
  exact Store.locate_of_keepsDirectories (writeFiles_keeps hwritten).1 hplace

/-- **A second run of the same client** succeeds and changes nothing. -/
theorem Writes.again (h : Writes s document options paths s') :
    ∃ t, Writes s' document options paths t ∧ ∀ q, t.at? q = s'.at? q := by
  obtain ⟨files, hfiles, hwritten, rfl, rfl⟩ := h.exists_files
  have hnames (file : ClientFile) (hfile : file ∈ files) := names_ne_nil_of_mem hfiles hfile
  have hready := (result_writeFiles_eq_ok_iff hfiles).mp hwritten
  have hagain := (result_writeFiles_eq_ok_iff hfiles).mpr fun file hfile =>
    ⟨canBeWritten_writeFiles hfiles hfiles rfl hwritten hfile (hready file hfile).1,
      (hready file hfile).2⟩
  refine ⟨_, writes_of_writeFiles hfiles hagain, fun q => Store.at?_eq_of_fileAt?_eq ?_ ?_⟩
  · -- the last write of a place is the same in both runs
    rw [fileAt?_writeFiles_eq hagain, fileAt?_writeFiles_eq hwritten]
    cases lastWritten q files <;> rfl
  · rw [at?_writeFiles_eq_directory_iff hnames hagain,
      at?_writeFiles_eq_directory_iff hnames hwritten, or_assoc, or_self]

/-- **Clients in two languages** can be written in either order, and the stores are the same. -/
theorem Writes.exists_comm (h : Writes s document options paths s')
    (h' : Writes s document' options' paths' t) (hdirectory : options.outDir = options'.outDir)
    (hlanguage : options.language ≠ options'.language) :
    ∃ u v, Writes s' document' options' paths' u ∧ Writes t document options paths v ∧
      ∀ q, u.at? q = v.at? q := by
  obtain ⟨files, hfiles, hwritten, rfl, rfl⟩ := h.exists_files
  obtain ⟨files', hfiles', hwritten', rfl, rfl⟩ := h'.exists_files
  have hnames (file : ClientFile) (hfile : file ∈ files) := names_ne_nil_of_mem hfiles hfile
  have hnames' (file : ClientFile) (hfile : file ∈ files') := names_ne_nil_of_mem hfiles' hfile
  have hready := (result_writeFiles_eq_ok_iff hfiles).mp hwritten
  have hready' := (result_writeFiles_eq_ok_iff hfiles').mp hwritten'
  have hsecond := (result_writeFiles_eq_ok_iff hfiles').mpr fun file hfile =>
    ⟨canBeWritten_writeFiles hfiles hfiles' hdirectory hwritten hfile (hready' file hfile).1,
      (hready' file hfile).2⟩
  have hsecond' := (result_writeFiles_eq_ok_iff hfiles).mpr fun file hfile =>
    ⟨canBeWritten_writeFiles hfiles' hfiles hdirectory.symm hwritten' hfile (hready file hfile).1,
      (hready file hfile).2⟩
  refine ⟨_, _, writes_of_writeFiles hfiles' hsecond, writes_of_writeFiles hfiles hsecond',
    fun q => Store.at?_eq_of_fileAt?_eq ?_ ?_⟩
  · rw [fileAt?_writeFiles_eq hsecond, fileAt?_writeFiles_eq hwritten,
      fileAt?_writeFiles_eq hsecond', fileAt?_writeFiles_eq hwritten']
    -- at most one of the two clients has a file at the place
    by_cases hq : ∃ file ∈ files, destination file.path = q
    · obtain ⟨file, hfile, rfl⟩ := hq
      have hother : ∀ other ∈ files', destination other.path ≠ destination file.path :=
        fun other hother => (destination_ne_of_language hfiles hfiles' hdirectory hlanguage hfile
          hother).symm
      rw [lastWritten_eq_none hother, Option.none_or, Option.none_or]
    · push Not at hq
      rw [lastWritten_eq_none hq, Option.none_or, Option.none_or]
  · rw [at?_writeFiles_eq_directory_iff hnames' hsecond,
      at?_writeFiles_eq_directory_iff hnames hwritten,
      at?_writeFiles_eq_directory_iff hnames hsecond',
      at?_writeFiles_eq_directory_iff hnames' hwritten', or_right_comm]

/-- **Runs one after the other.** A run succeeds exactly when every path of its client can be
written in the store as it is and every text has bytes. Behind a run that succeeds

* every place that none of its paths leads to has the file that it had, and every other path reads
  as it did;
* the same run succeeds again and leaves every place as it is;
* a client in the other language can be written to the same directory if it could before, and the
  stores behind the two runs are the same place by place, whichever run comes first. -/
theorem successive_runs (h : (clientFiles document options).result = .ok files) :
    (∀ s, (∃ paths s', Writes s document options paths s') ↔
      ∀ file ∈ files, CanBeWritten s file.path ∧ file.contents.utf8?.isSome = true) ∧
    ∀ s paths s', Writes s document options paths s' →
      (∀ q, (∀ path ∈ paths, destination path ≠ q) → s'.fileAt? q = s.fileAt? q) ∧
      (∀ path contents, (∀ written ∈ paths, destination written ≠ destination path) →
        s.read? path = .ok contents → s'.read? path = .ok contents) ∧
      (∃ t, Writes s' document options paths t ∧ ∀ q, t.at? q = s'.at? q) ∧
      ∀ document' options' paths' t, options.outDir = options'.outDir →
        options.language ≠ options'.language → Writes s document' options' paths' t →
          ∃ u v, Writes s' document' options' paths' u ∧ Writes t document options paths v ∧
            ∀ q, u.at? q = v.at? q := by
  refine ⟨fun s => ?_, fun s paths s' hrun => ⟨fun q hq => hrun.fileAt?_eq hq,
    fun path contents hpath hread => hrun.read?_eq_ok hpath hread, hrun.again,
    fun document' options' paths' t hdirectory hlanguage hother =>
      hrun.exists_comm hother hdirectory hlanguage⟩⟩
  rw [← result_writeFiles_eq_ok_iff h]
  constructor
  · rintro ⟨paths, s', hrun⟩
    obtain ⟨made, hmade, hwritten, -⟩ := hrun.exists_files
    obtain rfl := Except.ok.inj (h.symm.trans hmade)
    exact hwritten
  · exact fun hwritten => ⟨_, _, writes_of_writeFiles h hwritten⟩

/-- Options of a client without types. -/
def withoutTypes (outDir : Text) : Options :=
  { Options.usual outDir with language := .js }

/-- The path of a file that belongs to no client. -/
def notesPath : Path := .ofText "notes.txt"

/-- A store that has a file of one byte there. -/
def notesStore : Store := ⟨[(destination notesPath, ⟨#[0]⟩)], []⟩

/-- The client of pets with types and that of owners without them can be written beside it. -/
theorem exists_clientsOfTwo : ∃ pets owners,
    (clientFiles (taggedDocument "pets") (.usual "out")).result = .ok pets ∧
      (∀ file ∈ pets, CanBeWritten notesStore file.path ∧ file.contents.utf8?.isSome = true) ∧
      (∀ file ∈ pets, destination file.path ≠ destination notesPath) ∧
      (clientFiles (taggedDocument "owners") (withoutTypes "out")).result = .ok owners ∧
      ∀ file ∈ owners, CanBeWritten notesStore file.path ∧ file.contents.utf8?.isSome = true := by
  obtain ⟨pets, hpets, hready, hpetsBytes⟩ := exists_files_of_test (taggedDocument "pets")
    (.usual "out")
    (fun path => CanBeWritten notesStore path ∧ destination path ≠ destination notesPath)
    (by decide +kernel) (by decide +kernel)
  obtain ⟨owners, howners, hopen, hownersBytes⟩ := exists_files_of_test (taggedDocument "owners")
    (withoutTypes "out") (CanBeWritten notesStore) (by decide +kernel) (by decide +kernel)
  exact ⟨pets, owners, hpets, fun file hfile => ⟨(hready file hfile).1, hpetsBytes file hfile⟩,
    fun file hfile => (hready file hfile).2, howners,
    fun file hfile => ⟨hopen file hfile, hownersBytes file hfile⟩⟩

/-- The client of pets is written beside the file, which stays. A second run of it leaves every
place as it is, and a client of owners without types joins it as if it had come first. -/
theorem successive_runs_pets : ∃ paths s',
    Writes notesStore (taggedDocument "pets") (.usual "out") paths s' ∧
      s'.read? notesPath = .ok ⟨#[0]⟩ ∧
      (∃ t, Writes s' (taggedDocument "pets") (.usual "out") paths t ∧ ∀ q, t.at? q = s'.at? q) ∧
      ∃ paths' t u v,
        Writes notesStore (taggedDocument "owners") (withoutTypes "out") paths' t ∧
          Writes s' (taggedDocument "owners") (withoutTypes "out") paths' u ∧
          Writes t (taggedDocument "pets") (.usual "out") paths v ∧ ∀ q, u.at? q = v.at? q := by
  obtain ⟨pets, owners, hpets, hpetsReady, hapart, howners, hownersReady⟩ := exists_clientsOfTwo
  obtain ⟨hsucceeds, hbehind⟩ := successive_runs hpets
  obtain ⟨paths, s', hrun⟩ := (hsucceeds notesStore).mpr hpetsReady
  obtain ⟨-, hframe, hagain, hcomm⟩ := hbehind notesStore paths s' hrun
  obtain ⟨paths', t, hother⟩ := ((successive_runs howners).1 notesStore).mpr hownersReady
  obtain ⟨u, v, hu, hv, hsame⟩ :=
    hcomm (taggedDocument "owners") (withoutTypes "out") paths' t rfl (by decide) hother
  have hpaths : paths = pets.map ClientFile.path := by
    obtain ⟨files, hfiles, -, -, rfl⟩ := hrun.exists_files
    obtain rfl := Except.ok.inj (hpets.symm.trans hfiles)
    rfl
  have hkeeps : ∀ written ∈ paths, destination written ≠ destination notesPath := by
    rw [hpaths]
    exact List.forall_mem_map.mpr hapart
  exact ⟨paths, s', hrun, hframe notesPath _ hkeeps (by decide), hagain,
    paths', t, u, v, hother, hu, hv, hsame⟩

end ClientScribe.Output
