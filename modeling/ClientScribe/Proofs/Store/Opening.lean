import ClientScribe.Proofs.Store.Writing

/-!
# Paths That Can Be Written

Whether a path can be written does not depend on what is written: the directories on its way must
be there or be made, and its place must be no directory (`writeDeep_eq_ok_iff`). A write puts a file
at one place and directories on one way. So a path that could be written before still can be, unless
the new file stands on its way or its own place has become a directory:

* `CanBeWritten.writeDeep`: what a write leaves of the paths that can be written.
-/

namespace ClientScribe.Store

variable {s s' : Store} {p q : Place} {path other : Path} {names : List Text}
  {contents : ByteArray}

/-- A path can be written: the directories around it can be made, and it can be opened. -/
def CanBeWritten (s : Store) (path : Path) : Prop :=
  (s.writeDeep path .empty).2 = .ok ()

instance (s : Store) (path : Path) : Decidable (CanBeWritten s path) :=
  inferInstanceAs (Decidable (_ = _))

/-! ### Ways -/

/-- The places that a row of steps leads over, its end among them. -/
def way (p : Place) : List Text → List Place
  | [] => []
  | name :: rest => step p name :: way (step p name) rest

/-- The places on the way to the directory of a path. -/
def wayTo (path : Path) : List Place :=
  way (origin path) path.names.dropLast

/-- The way over two rows of steps is the way over the first and, from its end, over the second. -/
theorem way_append (p : Place) (names more : List Text) :
    way p (names ++ more) = way p names ++ way (names.foldl step p) more := by
  induction names generalizing p with
  | nil => rfl
  | cons name names ih => rw [List.cons_append, way, way, ih, List.cons_append, List.foldl_cons]

/-- What is at a place is a file exactly when the store has one there. -/
theorem at?_eq_file_iff : s.at? q = some (.file contents) ↔ s.fileAt? q = some contents := by
  unfold at?
  cases s.fileAt? q with
  | none => simp
  | some bytes => simp

/-- A way leads through directories exactly when all its places are directories and no step is too
long. -/
theorem walk_eq_ok_iff : s.walk p names = .ok q ↔ q = names.foldl step p ∧
    (∀ name ∈ names, ¬longestName < textSize name) ∧
      ∀ r ∈ way p names, s.at? r = some .directory := by
  induction names generalizing p with
  | nil => simp [walk, way, eq_comm]
  | cons name names ih =>
      rw [walk, way, List.forall_mem_cons, List.forall_mem_cons, List.foldl_cons]
      by_cases hlength : longestName < textSize name
      · simp [hlength]
      · rw [if_neg hlength]
        dsimp only
        cases hat : s.at? (step p name) with
        | none => simp
        | some entry =>
            cases entry with
            | file contents => simp
            | directory => simp [ih, hlength]

/-- Directories can be made along a way exactly when no file stands on it and no step is too
long. -/
theorem makeAlong_eq_ok_iff : (s.makeAlong p names).2 = .ok () ↔
    (∀ name ∈ names, ¬longestName < textSize name) ∧ ∀ q ∈ way p names, s.fileAt? q = none := by
  induction names generalizing s p with
  | nil => simp [makeAlong, way]
  | cons name names ih =>
      rw [makeAlong, way, List.forall_mem_cons, List.forall_mem_cons]
      by_cases hlength : longestName < textSize name
      · simp [hlength]
      · rw [if_neg hlength]
        dsimp only
        cases hat : s.at? (step p name) with
        | none =>
            have hfile : s.fileAt? (step p name) = none := by
              cases h : s.fileAt? (step p name) with
              | none => rfl
              | some contents => simp [at?_eq_file_iff.mpr h] at hat
            have hsame (q : Place) : ({ s with directories := step p name :: s.directories } :
                Store).fileAt? q = s.fileAt? q := rfl
            simp only [ih, hsame, hlength, hfile, not_false_eq_true, true_and]
        | some entry =>
            cases entry with
            | file contents => simp [at?_eq_file_iff.mp hat]
            | directory => simp [ih, hlength, (at?_eq_directory_iff.mp hat).1]

/-- Once directories are made along a way, its places are directories and no others became one. -/
theorem at?_makeAlong (h : (s.makeAlong p names).2 = .ok ()) :
    (s.makeAlong p names).1.at? q = some .directory ↔
      s.at? q = some .directory ∨ q ∈ way p names := by
  induction names generalizing s p with
  | nil => simp [makeAlong, way]
  | cons name names ih =>
      have hfree := (makeAlong_eq_ok_iff.mp h).2 (step p name) List.mem_cons_self
      rw [makeAlong] at h ⊢
      split at h
      · cases h
      · next hlength =>
        rw [if_neg hlength, way, List.mem_cons]
        dsimp only at h ⊢
        split at h
        · cases h
        · next hat =>
          rw [ih h]
          exact ⟨fun hq => hq.imp_right .inr, by
            rintro (hq | rfl | hq)
            · exact .inl hq
            · exact .inl hat
            · exact .inr hq⟩
        · next hat =>
          rw [ih h, at?_eq_directory_iff, at?_eq_directory_iff]
          have hsame : ({ s with directories := step p name :: s.directories } : Store).fileAt? q =
            s.fileAt? q := rfl
          rw [hsame, List.mem_cons]
          constructor
          · rintro (⟨hfile, hfixed | rfl | hmem⟩ | hq)
            · exact .inl ⟨hfile, .inl hfixed⟩
            · exact .inr (.inl rfl)
            · exact .inl ⟨hfile, .inr hmem⟩
            · exact .inr (.inr hq)
          · rintro (⟨hfile, hfixed | hmem⟩ | rfl | hq)
            · exact .inl ⟨hfile, .inl hfixed⟩
            · exact .inl ⟨hfile, .inr (.inr hmem)⟩
            · exact .inl ⟨hfree, .inr (.inl rfl)⟩
            · exact .inr hq

/-! ### Opening a path -/

/-- A path is open in a store: it can be used, no file stands on its way, and its place is no
directory and will not become one. -/
structure IsOpen (s : Store) (path : Path) : Prop where
  usable_parent : usable path.parent = .ok ()
  usable : usable path = .ok ()
  short : ∀ name ∈ path.names, ¬longestName < textSize name
  free : ∀ q ∈ wayTo path, s.fileAt? q = none
  notDirectory : s.at? (destination path) ≠ some .directory
  notOnWay : destination path ∉ wayTo path

/-- For a path that can be used, the directories along it are made. -/
theorem makeDirectories_of_usable (h : usable path = .ok ()) :
    s.makeDirectories path = s.makeAlong (origin path) path.names := by
  rw [makeDirectories, h]

/-- A directory can be made if its path can be used and the directories along it can be made. -/
theorem makeDirectories_eq_ok_iff : (s.makeDirectories path).2 = .ok () ↔
    usable path = .ok () ∧ (s.makeAlong (origin path) path.names).2 = .ok () := by
  cases husable : usable path with
  | error fault => simp [makeDirectories, husable]
  | ok => simp [makeDirectories_of_usable husable]

/-- A write makes the directories first, and then it opens the path. -/
theorem writeDeep_eq_ok_iff_write : s.writeDeep path contents = (s', .ok ()) ↔
    (s.makeDirectories path.parent).2 = .ok () ∧
      (s.makeDirectories path.parent).1.write path contents = .ok s' := by
  unfold writeDeep
  split
  · next made fault hmade => simp [hmade]
  · next made hmade =>
    rw [hmade]
    cases made.write path contents <;> simp

/-- Once the directory of a path is made, the path has its place if it can be used. -/
theorem locate_of_makeAlong (hnames : path.names ≠ []) (husable : usable path = .ok ())
    (hshort : ∀ name ∈ path.names, ¬longestName < textSize name)
    (h : (s.makeAlong (origin path) path.names.dropLast).2 = .ok ()) :
    (s.makeAlong (origin path) path.names.dropLast).1.locate path = .ok (destination path) := by
  have hlast := List.getLast?_eq_some_getLast hnames
  refine locate_eq_ok_iff.mpr ⟨husable, .inr ⟨_, _, hlast, walk_eq_ok_iff.mpr ⟨rfl, ?_, ?_⟩,
    hshort _ (List.getLast_mem hnames), ?_⟩⟩
  · exact fun name hname => hshort name (List.dropLast_subset _ hname)
  · exact fun q hq => (at?_makeAlong h).mpr (.inr hq)
  · rw [destination]
    conv_rhs => rw [← List.dropLast_append_getLast hnames, List.foldl_append]
    rfl

/-- **When a path can be written**: exactly when it is open, whatever is written. -/
theorem writeDeep_eq_ok_iff (hnames : path.names ≠ []) :
    (s.writeDeep path contents).2 = .ok () ↔ IsOpen s path := by
  constructor
  · intro h
    obtain ⟨hmade, hwrite⟩ := writeDeep_eq_ok_iff_write.mp (Prod.ext rfl h)
    obtain ⟨husable, halong⟩ := makeDirectories_eq_ok_iff.mp hmade
    rw [makeDirectories_of_usable husable] at hwrite
    obtain ⟨hplace, hat, -⟩ := write_eq_ok_iff.mp hwrite
    obtain ⟨hshort, hfree⟩ := makeAlong_eq_ok_iff.mp halong
    obtain ⟨huse, hplace⟩ := locate_eq_ok_iff.mp hplace
    obtain ⟨name, hlast, hlength⟩ : ∃ name, path.names.getLast? = some name ∧
        ¬longestName < textSize name := by
      obtain ⟨hnone, -⟩ | ⟨name, -, hname, -, hlength, -⟩ := hplace
      · exact absurd (List.getLast?_eq_none_iff.mp hnone) hnames
      · exact ⟨name, hname, hlength⟩
    have hnot := mt (at?_makeAlong halong).mpr hat
    rw [not_or] at hnot
    refine ⟨husable, huse, fun n hn => ?_, hfree, hnot.1, hnot.2⟩
    rw [← List.dropLast_append_getLast? name hlast, List.mem_append, List.mem_singleton] at hn
    obtain hn | rfl := hn
    · exact hshort n hn
    · exact hlength
  · intro h
    have halong : (s.makeAlong (origin path) path.names.dropLast).2 = .ok () :=
      makeAlong_eq_ok_iff.mpr
        ⟨fun name hname => h.short name (List.dropLast_subset _ hname), h.free⟩
    refine congrArg Prod.snd (writeDeep_eq_ok_iff_write.mpr
      ⟨makeDirectories_eq_ok_iff.mpr ⟨h.usable_parent, halong⟩, write_eq_ok_iff.mpr ⟨?_, ?_, rfl⟩⟩)
    · rw [makeDirectories_of_usable h.usable_parent]
      exact locate_of_makeAlong hnames h.usable h.short halong
    · rw [makeDirectories_of_usable h.usable_parent]
      exact fun hat => ((at?_makeAlong halong).mp hat).elim h.notDirectory h.notOnWay

/-- A path that can be written is open. -/
theorem canBeWritten_iff (hnames : path.names ≠ []) : CanBeWritten s path ↔ IsOpen s path :=
  writeDeep_eq_ok_iff hnames

/-- A write makes directories on the way to its own path only. -/
theorem at?_writeDeep_eq_directory (h : s.writeDeep path contents = (s', .ok ()))
    (hq : s'.at? q = some .directory) : s.at? q = some .directory ∨ q ∈ wayTo path := by
  obtain ⟨hmade, hwrite⟩ := writeDeep_eq_ok_iff_write.mp h
  obtain ⟨husable, halong⟩ := makeDirectories_eq_ok_iff.mp hmade
  rw [makeDirectories_of_usable husable] at hwrite
  obtain ⟨-, -, rfl⟩ := write_eq_ok_iff.mp hwrite
  refine (at?_makeAlong halong).mp ?_
  rw [at?_eq_directory_iff] at hq ⊢
  have hne : q ≠ destination path := by
    rintro rfl
    simp at hq
  rwa [fileAt?_putFile_of_ne hne] at hq

/-- Once a path is written, the directories are those that were there and those on its way. -/
theorem at?_writeDeep_eq_directory_iff (hnames : path.names ≠ [])
    (h : s.writeDeep path contents = (s', .ok ())) :
    s'.at? q = some .directory ↔ s.at? q = some .directory ∨ q ∈ wayTo path := by
  refine ⟨at?_writeDeep_eq_directory h, ?_⟩
  obtain ⟨hkeep, hplace, -⟩ := writeDeep_eq_ok h
  rintro (hq | hq)
  · exact hkeep q hq
  · obtain ⟨-, ⟨hnone, -⟩ | ⟨_, _, -, hwalk, -⟩⟩ := locate_eq_ok_iff.mp hplace
    · exact absurd (List.getLast?_eq_none_iff.mp hnone) hnames
    · exact (walk_eq_ok_iff.mp hwalk).2.2 q hq

/-- **What a write leaves of the paths that can be written.** A path that could be written still can
be if the new file does not stand on its way and its place is not on the way of the new file. -/
theorem CanBeWritten.writeDeep (hother : CanBeWritten s other) (hnames : other.names ≠ [])
    (hway : destination path ∉ wayTo other) (hplace : destination other ∉ wayTo path)
    (h : s.writeDeep path contents = (s', .ok ())) : CanBeWritten s' other := by
  rw [canBeWritten_iff hnames] at hother ⊢
  obtain ⟨-, -, hself, hrest⟩ := writeDeep_eq_ok h
  refine ⟨hother.usable_parent, hother.usable, hother.short, fun q hq => ?_, fun hat => ?_,
    hother.notOnWay⟩
  · rw [hrest q fun heq => hway (heq ▸ hq)]
    exact hother.free q hq
  · exact (at?_writeDeep_eq_directory h hat).elim hother.notDirectory hplace

end ClientScribe.Store
