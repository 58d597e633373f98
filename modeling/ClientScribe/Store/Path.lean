import ClientScribe.Text.Basic

/-!
# Paths

The name of a place in a file store: the slashes in front and the names between slashes. Empty names
and single dots say nothing and are dropped; double dots stay, since what they lead to depends on
the store.
-/

namespace ClientScribe.Store

/-- The parts of a text between slashes. -/
def slashParts : Text → List Text
  | [] => [[]]
  | c :: rest =>
    if c == .char '/' then [] :: slashParts rest
    else match slashParts rest with
      | part :: more => (c :: part) :: more
      | [] => [[c]]

/-- A path. -/
structure Path where
  /-- The slashes in front: none, one, or exactly two, which are kept apart from one. -/
  slashes : Nat
  names : List Text
  deriving DecidableEq

namespace Path

/-- Whether a part of a text names a step. -/
def isName (part : Text) : Bool :=
  !part.isEmpty && part != "."

/-- The path that a text writes. -/
def ofText (text : Text) : Path :=
  let slashes := (text.takeWhile (· == .char '/')).length
  { slashes := if 2 < slashes then 1 else slashes
    names := (slashParts text).filter isName }

/-- The text of a path; the path without a step is a dot. -/
def text (p : Path) : Text :=
  let s := List.replicate p.slashes (.char '/') ++ Text.intercalate "/" p.names
  if s.isEmpty then "." else s

/-- The path one step further. -/
def child (p : Path) (name : Text) : Path :=
  { p with names := p.names ++ [name] }

/-- The path without its last step. -/
def parent (p : Path) : Path :=
  { p with names := p.names.dropLast }

/-- The name of the last step. -/
def name (p : Path) : Text :=
  p.names.getLast?.getD []

end Path

end ClientScribe.Store
