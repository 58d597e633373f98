import ClientScribe.Output.ClientFile
import ClientScribe.Store.Basic

/-!
# Writing a client

The files of a client are written one after the other, with the directories they need. A file that
cannot be written ends the run, and those before it stay. A text with half of a pair has no bytes;
its file is left empty.
-/

namespace ClientScribe.Output

open Document (Value misfit)
open Store (Path)

/-- The store with a file written, and how it went. -/
def writeFile (store : Store) (file : ClientFile) : Store × Result Unit :=
  match file.contents.utf8? with
  | none => ((store.writeDeep file.path .empty).1, misfit)
  | some bytes =>
    match store.writeDeep file.path bytes with
    | (store, .error _) => (store, misfit)
    | (store, .ok ()) => (store, .ok ())

/-- The store with files written, and a notice for each one. -/
def writeFiles (store : Store) : List ClientFile → Store × Logged Unit
  | [] => (store, pure ())
  | file :: rest =>
    match writeFile store file with
    | (store, .error e) => (store, Logged.ofResult (.error e))
    | (store, .ok ()) =>
      let (store, outcome) := writeFiles store rest
      (store, do Logged.note (.written file.path.text); outcome)

/-- The store with a client written, and the paths of its files. -/
def writeClient (store : Store) (document : Value) (options : Options) :
    Store × Logged (List Path) :=
  let planned := clientFiles document options
  match planned.result with
  | .error e => (store, ⟨.error e, planned.notices⟩)
  | .ok files =>
    let (store, outcome) := writeFiles store files
    (store, do
      let files ← planned
      outcome
      return files.map ClientFile.path)

end ClientScribe.Output
