import ClientScribe.Document.Value

/-!
# Cells of a YAML document

While a document is read, every node gets a cell with what it stands for. A cell holds its parts by
number, since a part may be the collection itself. The pairs of a row of pairs have cells of their
own, with numbers behind those of the nodes.
-/

namespace ClientScribe.Yaml

open Document (Value)

/-- What a node stands for; parts are given by their numbers. -/
inductive Cell where
  /-- A value without parts. -/
  | plain (v : Value)
  | list (items : List Nat)
  | pair (first second : Nat)
  | map (entries : List (Value × Nat))
  | set (keys : List Value)

/-- The numbers of the parts of a cell. -/
def Cell.parts : Cell → List Nat
  | plain _ => []
  | list items => items
  | pair first second => [first, second]
  | map entries => entries.map (·.2)
  | set _ => []

/-- The value of a cell whose parts have values. -/
def Cell.value (part : Nat → Value) : Cell → Value
  | plain v => v
  | list items => .list (items.map part)
  | pair first second => .tuple [part first, part second]
  | map entries => .map (entries.map fun e => (e.1, part e.2))
  | set keys => .set keys

/-- The cells of a document by number. -/
abbrev Cells := Array Cell

namespace Cells

/-- The cell with a number. -/
def cell (cells : Cells) (n : Nat) : Cell := cells.getD n (.plain .null)

end Cells

end ClientScribe.Yaml
