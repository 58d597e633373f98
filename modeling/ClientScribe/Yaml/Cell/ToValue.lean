import ClientScribe.Yaml.Cell.Basic

/-!
# The value of a row of cells

A cell whose parts do not lead back to it has a plain value, which is made once however often the
cell is a part. All cells that lead to a cell that leads back to itself make up one ring.

The cells are gone through in depth. On the way to a cell no other one is passed twice, so the
number of cells bounds the depth.
-/

namespace ClientScribe.Yaml

open Document (Value)

/-- How far a cell has been looked at. -/
inductive Mark where
  | fresh
  /-- The cell is on the way to the one at hand. -/
  | open_
  | done (v : Value)
  /-- The cell leads to one that leads back to itself. -/
  | looped

/-- The value of a part: a link, unless the part has a plain value. -/
def partValue (marks : Array Mark) (n : Nat) : Value :=
  match marks.getD n .fresh with
  | .done v => v
  | _ => .link n

/-- Whether a cell has a plain value. -/
def isDone (marks : Array Mark) (n : Nat) : Bool :=
  match marks.getD n .fresh with
  | .done _ => true
  | _ => false

/-- The mark of a cell whose parts have been looked at. -/
def markOf (cells : Cells) (marks : Array Mark) (n : Nat) : Mark :=
  let cell := cells.cell n
  if cell.parts.all (isDone marks) then .done (cell.value (partValue marks)) else .looped

/-- The marks after looking at a cell and its parts. -/
def look (cells : Cells) : Nat → Array Mark → Nat → Array Mark
  | 0, marks, _ => marks
  | fuel + 1, marks, n =>
    match marks.getD n .fresh with
    | .fresh =>
      let marks := (cells.cell n).parts.foldl (look cells fuel) (marks.setIfInBounds n .open_)
      let mark := markOf cells marks n
      marks.setIfInBounds n mark
    | _ => marks

/-- The member of the ring with a number, if it belongs to the ring. -/
def member? (cells : Cells) (marks : Array Mark) (n : Nat) : Option (Nat × Value) :=
  match marks.getD n .fresh with
  | .looped => some (n, (cells.cell n).value (partValue marks))
  | _ => none

/-- The value of the cell with a number. -/
def Cells.value (cells : Cells) (root : Nat) : Value :=
  let marks := look cells (cells.size + 1) (Array.replicate cells.size .fresh) root
  match marks.getD root .fresh with
  | .done v => v
  | _ => .looped ((List.range cells.size).filterMap (member? cells marks)) root

end ClientScribe.Yaml
