import ClientScribe.Output.Writing
import ClientScribe.Proofs.Output.Paths
import ClientScribe.Proofs.Template.Rendering

/-!
# What a Run of Writes Leaves

The files of a client are written in order, each into the store that those before it leave. What a
path holds in the end is therefore the contents of the last file with that path
(`fileAt?_writeFiles`, `read?_writeFiles`), and it is lost what an earlier file with the same path
held. Different paths of one client lead to different places (`destination_ne_of_path_ne`).
-/

namespace ClientScribe.Output

open Api (Operation)
open Document (Value record)
open Store (Path destination KeepsDirectories)

variable {document : Value} {options : Options} {file : ClientFile} {files : List ClientFile}
  {s s' : Store}

/-! ### What a run of writes leaves -/

/-- A file is written as its bytes. -/
theorem writeFile_eq_ok (h : writeFile s file = (s', .ok ())) :
    ∃ bytes, file.contents.utf8? = some bytes ∧ s.writeDeep file.path bytes = (s', .ok ()) := by
  unfold writeFile at h
  split at h
  · cases h
  · next bytes hbytes =>
    split at h
    · cases h
    · next written hwritten =>
      obtain rfl := (Prod.mk.inj h).1
      exact ⟨bytes, hbytes, hwritten⟩

/-- The first of some files is written before the others. -/
theorem writeFiles_cons (h : (writeFiles s (file :: files)).2.result = .ok ()) :
    ∃ between, writeFile s file = (between, .ok ()) ∧
      (writeFiles between files).2.result = .ok () ∧
      (writeFiles s (file :: files)).1 = (writeFiles between files).1 := by
  rw [writeFiles] at h ⊢
  split at h
  · cases h
  · next between hfile => exact ⟨between, hfile, by simpa using h, rfl⟩

/-- **What a run of writes keeps.** No directory is gone, every written path has its place, and the
places of no written path have the files that they had. -/
theorem writeFiles_keeps (h : (writeFiles s files).2.result = .ok ()) :
    KeepsDirectories s (writeFiles s files).1 ∧
      (∀ file ∈ files,
        (writeFiles s files).1.locate file.path = .ok (destination file.path)) ∧
      ∀ q, (∀ file ∈ files, destination file.path ≠ q) →
        (writeFiles s files).1.fileAt? q = s.fileAt? q := by
  induction files generalizing s with
  | nil => exact ⟨.refl s, by simp, fun _ _ => rfl⟩
  | cons file files ih =>
      obtain ⟨between, hfile, hfiles, heq⟩ := writeFiles_cons h
      obtain ⟨bytes, -, hwritten⟩ := writeFile_eq_ok hfile
      obtain ⟨hkeep, hplace, -, hothers⟩ := Store.writeDeep_eq_ok hwritten
      obtain ⟨hkeeps, hplaces, hrest⟩ := ih hfiles
      rw [heq]
      refine ⟨hkeep.trans hkeeps, ?_, ?_⟩
      · intro other hother
        obtain rfl | hother := List.mem_cons.mp hother
        · exact Store.locate_of_keepsDirectories hkeeps hplace
        · exact hplaces other hother
      · intro q hq
        rw [hrest q fun other hother => hq other (List.mem_cons_of_mem _ hother)]
        exact hothers q (hq file List.mem_cons_self).symm

/-- **The last write of a place.** A file behind which none has the same place is there in the
end. -/
theorem fileAt?_writeFiles {before behind : List ClientFile}
    (h : (writeFiles s (before ++ file :: behind)).2.result = .ok ())
    (hlast : ∀ other ∈ behind, destination other.path ≠ destination file.path) :
    ∃ bytes, file.contents.utf8? = some bytes ∧
      (writeFiles s (before ++ file :: behind)).1.fileAt? (destination file.path) =
        some bytes := by
  induction before generalizing s with
  | nil =>
      obtain ⟨between, hfile, hfiles, heq⟩ := writeFiles_cons h
      obtain ⟨bytes, hbytes, hwritten⟩ := writeFile_eq_ok hfile
      obtain ⟨-, -, hcontents, -⟩ := Store.writeDeep_eq_ok hwritten
      obtain ⟨-, -, hrest⟩ := writeFiles_keeps hfiles
      refine ⟨bytes, hbytes, ?_⟩
      rw [List.nil_append, heq, hrest _ hlast, hcontents]
  | cons first before ih =>
      rw [List.cons_append] at h ⊢
      obtain ⟨between, -, hfiles, heq⟩ := writeFiles_cons h
      rw [heq]
      exact ih hfiles

/-- What a path reads as once some files are written: the contents of the last one with its
place. -/
theorem read?_writeFiles {before behind : List ClientFile}
    (h : (writeFiles s (before ++ file :: behind)).2.result = .ok ())
    (hlast : ∀ other ∈ behind, destination other.path ≠ destination file.path) :
    ∃ bytes, file.contents.utf8? = some bytes ∧
      (writeFiles s (before ++ file :: behind)).1.read? file.path = .ok bytes := by
  obtain ⟨bytes, hbytes, hcontents⟩ := fileAt?_writeFiles h hlast
  obtain ⟨-, hplaces, -⟩ := writeFiles_keeps h
  have hmem : file ∈ before ++ file :: behind := by simp
  exact ⟨bytes, hbytes, Store.read?_eq_ok (hplaces file hmem) hcontents⟩

/-! ### Writing a client -/

/-- Writing a client writes its files in order. -/
theorem writeClient_eq_ok {paths : List Path}
    (hfiles : (clientFiles document options).result = .ok files)
    (h : (writeClient s document options).2.result = .ok paths) :
    (writeFiles s files).2.result = .ok () ∧
      (writeClient s document options).1 = (writeFiles s files).1 ∧
      paths = files.map ClientFile.path := by
  have hstore : (writeClient s document options).1 = (writeFiles s files).1 := by
    simp only [writeClient, hfiles]
  simp only [writeClient, hfiles, Logged.result_bind, Logged.result_pure, Result.ok_bind,
    Result.check_bind_eq_ok_iff, Except.ok.injEq] at h
  exact ⟨h.1, hstore, h.2.symm⟩

/-- Files of a client with different paths have different places. -/
theorem destination_ne_of_path_ne {other : ClientFile}
    (h : (clientFiles document options).result = .ok files) (hfile : file ∈ files)
    (hother : other ∈ files) (hne : other.path ≠ file.path) :
    destination other.path ≠ destination file.path := by
  obtain ⟨ops, -, -, -, -, hops, -⟩ := result_clientFiles_eq_ok_iff.mp h
  have hsteps {file : ClientFile} (hmem : file ∈ files) :
      ∃ steps, Store.dots ∉ steps ∧ options.outDir.beneath steps = file.path := by
    have hpath := List.mem_map_of_mem (f := ClientFile.path) hmem
    rw [map_path_of_clientFiles hops h] at hpath
    obtain ⟨steps, hmem, hsteps⟩ := List.mem_map.mp hpath
    exact ⟨steps, dots_notMem_of_mem_fileSteps hmem, hsteps⟩
  obtain ⟨steps, hdots, hpath⟩ := hsteps hfile
  obtain ⟨steps', hdots', hpath'⟩ := hsteps hother
  rw [← hpath, ← hpath'] at hne ⊢
  rw [Ne, Path.beneath_inj] at hne
  rwa [Ne, Store.destination_beneath_inj hdots' hdots]

/-- A description with one operation under a tag. -/
def taggedDocument (tag : Text) : Value :=
  record [("paths", record [("/pets", record [("get", record [
    ("operationId", .str "list"), ("tags", .list [.str tag])])])])]

end ClientScribe.Output
