import ClientScribe.Store.Basic
import ClientScribe.Proofs.Result

/-!
# What a Write Leaves of a Store

The place of a path depends on its steps alone (`destination`); the store only says whether the way
there leads through directories. A write makes directories and puts one file, and it takes no
directory away (`KeepsDirectories`), so every way that was open stays open:

* `locate_of_keepsDirectories`: a path that has a place in a store has it in every later one;
* `writeDeep_eq_ok`: after a write the file of the path has the contents, and the files of all other
  places have theirs still;
* `read?_eq_ok`: such contents are what reading the path gives.
-/

namespace ClientScribe.Store

variable {s s' t : Store} {p q : Place} {path : Path} {names : List Text} {contents : ByteArray}

/-- The place of a path in any store in which the way there is open. -/
def destination (path : Path) : Place :=
  path.names.foldl step (origin path)

/-- Every directory of a store is one of a later store. -/
def KeepsDirectories (s s' : Store) : Prop :=
  ∀ q, s.at? q = some .directory → s'.at? q = some .directory

/-- A store keeps its own directories. -/
theorem KeepsDirectories.refl (s : Store) : KeepsDirectories s s := fun _ h => h

/-- Directories that are kept, and then kept again, are kept. -/
theorem KeepsDirectories.trans (h : KeepsDirectories s s') (h' : KeepsDirectories s' t) :
    KeepsDirectories s t := fun q hq => h' q (h q hq)

/-- A place is a directory if no file is there and it is fixed or was made. -/
theorem at?_eq_directory_iff : s.at? q = some .directory ↔
    s.fileAt? q = none ∧ (isFixed q = true ∨ q ∈ s.directories) := by
  unfold at?
  cases s.fileAt? q <;> simp [or_iff_not_imp_left]

/-! ### Ways through directories -/

/-- A way ends at the place that its steps lead to. -/
theorem walk_eq_foldl (h : s.walk p names = .ok q) : q = names.foldl step p := by
  induction names generalizing p with
  | nil => exact (Except.ok.inj h).symm
  | cons name names ih =>
      rw [walk] at h
      split at h
      · cases h
      · dsimp only at h
        split at h
        · cases h
        · cases h
        · exact ih h

/-- A way stays open in a store that keeps the directories. -/
theorem walk_of_keepsDirectories (hkeep : KeepsDirectories s s') (h : s.walk p names = .ok q) :
    s'.walk p names = .ok q := by
  induction names generalizing p with
  | nil => exact h
  | cons name names ih =>
      rw [walk] at h ⊢
      split at h
      · cases h
      · next hlength =>
        rw [if_neg hlength]
        dsimp only at h ⊢
        split at h
        · cases h
        · cases h
        · next hdirectory =>
          rw [hkeep _ hdirectory]
          exact ih h

/-- A path has a place if it can be used at all and the way to its last step is open. -/
theorem locate_eq_ok_iff : s.locate path = .ok p ↔ usable path = .ok () ∧
    (path.names.getLast? = none ∧ origin path = p ∨
      ∃ name directory, path.names.getLast? = some name ∧
        s.walk (origin path) path.names.dropLast = .ok directory ∧
        ¬longestName < textSize name ∧ step directory name = p) := by
  rw [locate, Result.check_bind_eq_ok_iff]
  refine and_congr_right fun _ => ?_
  cases path.names.getLast? with
  | none => simp [pure, Except.pure]
  | some name => simp [Result.bind_eq_ok_iff, ite_eq_iff, pure, Except.pure]

/-- A path with a place has the place that its steps lead to. -/
theorem locate_eq_destination (h : s.locate path = .ok p) : p = destination path := by
  obtain ⟨-, ⟨hnone, rfl⟩ | ⟨name, directory, hname, hwalk, -, rfl⟩⟩ := locate_eq_ok_iff.mp h
  · rw [destination, List.getLast?_eq_none_iff.mp hnone]
    rfl
  · obtain rfl := walk_eq_foldl hwalk
    rw [destination, ← List.dropLast_append_getLast? name hname, List.foldl_append]
    simp

/-- A path keeps its place in a store that keeps the directories. -/
theorem locate_of_keepsDirectories (hkeep : KeepsDirectories s s') (h : s.locate path = .ok p) :
    s'.locate path = .ok p := by
  rw [locate_eq_ok_iff] at h ⊢
  refine h.imp_right (Or.imp_right ?_)
  rintro ⟨name, directory, hname, hwalk, hlength, hstep⟩
  exact ⟨name, directory, hname, walk_of_keepsDirectories hkeep hwalk, hlength, hstep⟩

/-! ### Places beneath a path -/

/-- The path some steps further. -/
def Path.beneath (path : Path) (names : List Text) : Path :=
  { path with names := path.names ++ names }

/-- One step further is a row of one step. -/
@[simp] theorem Path.child_eq_beneath (path : Path) (name : Text) :
    path.child name = path.beneath [name] := rfl

/-- Steps further and then more steps are all of them in one row. -/
@[simp] theorem Path.beneath_beneath (path : Path) (names more : List Text) :
    (path.beneath names).beneath more = path.beneath (names ++ more) := by
  simp [Path.beneath]

/-- Different rows of further steps are different paths. -/
@[simp] theorem Path.beneath_inj {more : List Text} :
    path.beneath names = path.beneath more ↔ names = more := by
  simp [Path.beneath]

/-- Steps that do not lead back lead to the place with their names behind. -/
theorem foldl_step_of_dots_notMem (h : dots ∉ names) :
    names.foldl step p = { p with names := p.names ++ names } := by
  induction names generalizing p with
  | nil => simp
  | cons name names ih =>
      rw [List.mem_cons, not_or] at h
      obtain ⟨hname, hnames⟩ := h
      have hstep : step p name = { p with names := p.names ++ [name] } := by
        simp [step, Ne.symm hname]
      rw [List.foldl_cons, hstep, ih hnames]
      simp

/-- Different rows of further steps that do not lead back are different places. -/
theorem destination_beneath_inj {more : List Text} (hnames : dots ∉ names) (hmore : dots ∉ more) :
    destination (path.beneath names) = destination (path.beneath more) ↔ names = more := by
  have hbeneath {more : List Text} (h : dots ∉ more) : destination (path.beneath more) =
      { destination path with names := (destination path).names ++ more } := by
    rw [destination, Path.beneath, List.foldl_append, foldl_step_of_dots_notMem h]
    rfl
  simp [hbeneath hnames, hbeneath hmore]

/-! ### What a write does -/

/-- Making directories keeps those that are there, and all files. -/
theorem makeAlong_keeps : KeepsDirectories s (s.makeAlong p names).1 ∧
    (s.makeAlong p names).1.files = s.files := by
  induction names generalizing s p with
  | nil => exact ⟨.refl s, rfl⟩
  | cons name names ih =>
      rw [makeAlong]
      split
      · exact ⟨.refl s, rfl⟩
      · dsimp only
        split
        · exact ⟨.refl s, rfl⟩
        · exact ih
        · obtain ⟨hkeep, hfiles⟩ := @ih { s with directories := step p name :: s.directories }
            (step p name)
          refine ⟨.trans ?_ hkeep, hfiles⟩
          intro q hq
          rw [at?_eq_directory_iff] at hq ⊢
          exact hq.imp_right (Or.imp_right (List.mem_cons_of_mem _))

/-- Making a directory keeps those that are there, and all files. -/
theorem makeDirectories_keeps (s : Store) (path : Path) :
    KeepsDirectories s (s.makeDirectories path).1 ∧
      (s.makeDirectories path).1.files = s.files := by
  unfold makeDirectories
  split
  · exact ⟨.refl s, rfl⟩
  · exact makeAlong_keeps

/-- A file that is put at a place is there. -/
@[simp] theorem fileAt?_putFile_self : (s.putFile p contents).fileAt? p = some contents := by
  simp [fileAt?, putFile]

/-- Putting a file leaves those of other places. -/
theorem fileAt?_putFile_of_ne (h : q ≠ p) : (s.putFile p contents).fileAt? q = s.fileAt? q := by
  have hfind : (s.files.filter (·.1 != p)).find? (·.1 == q) = s.files.find? (·.1 == q) := by
    rw [List.find?_filter]
    congr 1
    funext file
    by_cases hq : file.1 = q <;> simp [hq, h]
  simp [fileAt?, putFile, h.symm, hfind]

/-- Putting a file where no directory is keeps the directories. -/
theorem putFile_keepsDirectories (h : s.at? p ≠ some .directory) (contents : ByteArray) :
    KeepsDirectories s (s.putFile p contents) := by
  intro q hq
  have hne : q ≠ p := fun heq => h (heq ▸ hq)
  rw [at?_eq_directory_iff] at hq ⊢
  rw [fileAt?_putFile_of_ne hne]
  exact hq

/-- A write puts the contents at the place of the path. -/
theorem write_eq_ok_iff : s.write path contents = .ok s' ↔
    s.locate path = .ok (destination path) ∧ s.at? (destination path) ≠ some .directory ∧
      s' = s.putFile (destination path) contents := by
  rw [write, Result.bind_eq_ok_iff]
  constructor
  · rintro ⟨place, hplace, h⟩
    obtain rfl := locate_eq_destination hplace
    split at h
    · cases h
    · next hat => exact ⟨hplace, hat, (Except.ok.inj h).symm⟩
  · rintro ⟨hplace, hat, rfl⟩
    refine ⟨_, hplace, ?_⟩
    split
    · next hdirectory => exact absurd hdirectory hat
    · rfl

/-- **What a write does.** Once a path is written, it has its place, the contents are there, all
other places have the files that they had, and no directory is gone. -/
theorem writeDeep_eq_ok (h : s.writeDeep path contents = (s', .ok ())) :
    KeepsDirectories s s' ∧ s'.locate path = .ok (destination path) ∧
      s'.fileAt? (destination path) = some contents ∧
      ∀ q ≠ destination path, s'.fileAt? q = s.fileAt? q := by
  unfold writeDeep at h
  obtain ⟨hkeep, hfiles⟩ := makeDirectories_keeps s path.parent
  split at h
  · cases h
  · next made hmade =>
    rw [hmade] at hkeep hfiles
    dsimp only at hkeep hfiles
    split at h
    · next written hwritten =>
      obtain rfl := (Prod.mk.inj h).1
      obtain ⟨hplace, hat, rfl⟩ := write_eq_ok_iff.mp hwritten
      have hput := putFile_keepsDirectories hat contents
      refine ⟨hkeep.trans hput, locate_of_keepsDirectories hput hplace, fileAt?_putFile_self, ?_⟩
      intro q hq
      rw [fileAt?_putFile_of_ne hq, fileAt?, hfiles, fileAt?]
    · cases h

/-- The contents at the place of a path are what reading it gives. -/
theorem read?_eq_ok (hplace : s.locate path = .ok p) (hfile : s.fileAt? p = some contents) :
    s.read? path = .ok contents := by
  rw [read?, hplace]
  simp [at?, hfile, bind, Except.bind, pure, Except.pure]

end ClientScribe.Store
