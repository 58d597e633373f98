import ClientScribe.Store.Path
import ClientScribe.Text.Quoted

/-!
# A store of files

A store holds files and directories as a run finds and leaves them. Paths lead through directories
from the working directory, or from the root if they start with a slash; double dots lead back.
Places above the working directory are directories and otherwise unknown.

Main definitions:

* `Store.read?`, `Store.write` — the contents of a file, or why there are none;
* `Store.makeDirectories` — a directory with those around it;
* `Store.listing` — the files of the working directory.
-/

namespace ClientScribe

namespace Store

/-- A place in a store: whether it is counted from the root, and the names on the way. Leading
double dots are places above the working directory. -/
structure Place where
  fromRoot : Bool
  names : List Text
  deriving DecidableEq

/-- Why a path cannot be used. -/
inductive Fault where
  | missing
  | notDirectory
  | isDirectory
  | nameTooLong
  /-- The path holds a code point that no path can hold. -/
  | unusable
  deriving DecidableEq

/-- The number and wording of a fault; an unusable path has none. -/
def Fault.text : Fault → Text
  | missing => "[Errno 2] No such file or directory"
  | notDirectory => "[Errno 20] Not a directory"
  | isDirectory => "[Errno 21] Is a directory"
  | nameTooLong => "[Errno 36] File name too long"
  | unusable => []

/-- What is at a place. -/
inductive Entry where
  | file (contents : ByteArray)
  | directory

end Store

/-- The files of a store with their contents, and its directories. -/
structure Store where
  files : List (Store.Place × ByteArray)
  directories : List Store.Place

namespace Store

/-- The store with an empty working directory. -/
def empty : Store := ⟨[], []⟩

/-- The name of a step back. -/
def dots : Text := ".."

/-- Whether a place is a directory in every store: the root, the working directory and what is
above it. -/
def isFixed (p : Place) : Bool :=
  p.names.all (· == dots)

/-- The contents of the file at a place. -/
def fileAt? (s : Store) (p : Place) : Option ByteArray :=
  (s.files.find? (·.1 == p)).map (·.2)

/-- What is at a place. -/
def at? (s : Store) (p : Place) : Option Entry :=
  match s.fileAt? p with
  | some contents => some (.file contents)
  | none => if isFixed p || s.directories.contains p then some .directory else none

/-- The place one step back. -/
def back (p : Place) : Place :=
  if p.fromRoot then { p with names := p.names.dropLast }
  else if isFixed p then { p with names := p.names ++ [dots] }
  else { p with names := p.names.dropLast }

/-- The place behind a step from a directory. -/
def step (p : Place) (name : Text) : Place :=
  if name == dots then back p else { p with names := p.names ++ [name] }

/-- The most bytes of a name and of a whole path. -/
def longestName : Nat := 255

/-- The bytes of a path must be fewer than this. -/
def pathLimit : Nat := 4096

/-- Whether a path can hold a code point: not the character zero, and no half of a pair but those
that stand for the bytes 128 to 255 of a name that is no text. -/
def isPathPoint : CodePoint → Bool
  | .char c => c.toNat != 0
  | .half n => 0x480 ≤ n.val && n.val < 0x500

/-- The number of bytes of a code point of a path. -/
def pointSize : CodePoint → Nat
  | .char c => c.utf8Size
  | .half _ => 1

/-- The number of bytes of a path or of a name. -/
def textSize (s : Text) : Nat :=
  s.foldl (fun size c => size + pointSize c) 0

/-- Whether a path can be used at all. -/
def usable (p : Path) : Except Fault Unit :=
  if !p.text.all isPathPoint then .error .unusable
  else if pathLimit ≤ textSize p.text then .error .nameTooLong
  else .ok ()

/-- The directory behind a row of steps. -/
def walk (s : Store) (p : Place) : List Text → Except Fault Place
  | [] => .ok p
  | name :: rest =>
    if longestName < textSize name then .error .nameTooLong
    else
      let q := step p name
      match s.at? q with
      | none => .error .missing
      | some (.file _) => .error .notDirectory
      | some .directory => walk s q rest

/-- Where a path starts. -/
def origin (p : Path) : Place :=
  ⟨0 < p.slashes, []⟩

/-- The place of a path, whose last step need not lead to anything. -/
def locate (s : Store) (p : Path) : Except Fault Place := do
  usable p
  match p.names.getLast? with
  | none => return origin p
  | some name =>
    let directory ← walk s (origin p) p.names.dropLast
    if longestName < textSize name then .error .nameTooLong
    else return step directory name

/-- The contents of the file of a path. -/
def read? (s : Store) (p : Path) : Except Fault ByteArray := do
  match s.at? (← s.locate p) with
  | some (.file contents) => return contents
  | some .directory => .error .isDirectory
  | none => .error .missing

/-- Whether a path leads to a file. A path written with a slash or a dot at its end leads to a
directory or to nothing. -/
def isFile (s : Store) (text : Text) : Except Fault Bool :=
  if (slashParts text).getLast?.any Path.isName then
    match s.read? (.ofText text) with
    | .ok _ => .ok true
    | .error .unusable => .error .unusable
    | .error _ => .ok false
  else if !text.all isPathPoint then .error .unusable
  else .ok false

/-- The store with directories made along a row of steps as far as there are none, up to a step that
leads to a file or is too long. -/
def makeAlong (s : Store) (p : Place) : List Text → Store × Except Fault Unit
  | [] => (s, .ok ())
  | name :: rest =>
    if longestName < textSize name then (s, .error .nameTooLong)
    else
      let q := step p name
      match s.at? q with
      | some (.file _) => (s, .error .notDirectory)
      | some .directory => makeAlong s q rest
      | none => makeAlong { s with directories := q :: s.directories } q rest

/-- The store with a directory and those around it. -/
def makeDirectories (s : Store) (p : Path) : Store × Except Fault Unit :=
  match usable p with
  | .error fault => (s, .error fault)
  | .ok () => makeAlong s (origin p) p.names

/-- The store with a file at a place, in place of the one that is there. -/
def putFile (s : Store) (p : Place) (contents : ByteArray) : Store :=
  { s with files := (p, contents) :: s.files.filter (·.1 != p) }

/-- The store with a file written; the directory of the file must be there. -/
def write (s : Store) (p : Path) (contents : ByteArray) : Except Fault Store := do
  let place ← s.locate p
  match s.at? place with
  | some .directory => .error .isDirectory
  | _ => return s.putFile place contents

/-- The store with a file written and the directories around it made. -/
def writeDeep (s : Store) (p : Path) (contents : ByteArray) : Store × Except Fault Unit :=
  match s.makeDirectories p.parent with
  | (s, .error fault) => (s, .error fault)
  | (s, .ok ()) =>
    match s.write p contents with
    | .ok s => (s, .ok ())
    | .error fault => (s, .error fault)

/-- The text of a place. -/
def placeText (p : Place) : Text :=
  (if p.fromRoot then [.char '/'] else []) ++ Text.intercalate "/" p.names

/-- The files of a store that another one does not have with the same contents, oldest first. -/
def changes (before after : Store) : List (Text × ByteArray) :=
  let changed := after.files.filter fun f => before.fileAt? f.1 != some f.2
  changed.reverse.map fun f => (placeText f.1, f.2)

/-- The files of the working directory with their sizes, sorted by path. -/
def listing (s : Store) : List (Text × Nat) :=
  let here := s.files.filter fun f => !f.1.fromRoot && f.1.names.head? != some dots
  (here.map fun f => (placeText f.1, f.2.size)).mergeSort fun a b => !b.1.before a.1

end Store

end ClientScribe
