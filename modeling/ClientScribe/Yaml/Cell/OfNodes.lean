import ClientScribe.Yaml.Cell.Basic
import ClientScribe.Yaml.Node.Merge
import ClientScribe.Yaml.Scalar.Reading

/-!
# The cells of the nodes of a document

Scalars are read when they are met; collections are put off and filled one after the other, in the
order in which they are met. So of several faults the one nearest to the root counts. A mapping is
merged when it is filled. Every node is met once.

Main definitions:

* `Draft.start` — the step at which a node is met;
* `Draft.fill` — the step at which a collection is filled;
* `Graph.cells` — all cells of a document.
-/

namespace ClientScribe.Yaml

open Document (ReadFault Value ofPairs)

/-- The nodes as merging has left them, the cells so far, and the collections that wait to be
filled, last first. -/
structure Draft where
  nodes : Nodes
  cells : Array (Option Cell)
  waiting : List Nat

/-- A step of reading nodes. -/
abbrev Drafting := StateT Draft (Except ReadFault)

/-- The text of a node that is read as a scalar: its own, or that of the value of a mapping. A
mapping that is its own value has none. -/
def scalarText (nodes : Nodes) : Nat → Nat → Except ReadFault Text
  | 0, _ => .error .impossible
  | fuel + 1, n =>
    match (nodes.node n).form with
    | .scalar text => .ok text
    | .sequence _ => .error .malformed
    | .mapping entries =>
      match entries.find? (hasKey nodes .value) with
      | some (_, v) => scalarText nodes fuel v
      | none => .error .malformed

/-- The value of a node with a tag for scalars. A mapping has no text that could be a timestamp. -/
def scalarValue (nodes : Nodes) (n : Nat) (tag : Tag) : Except ReadFault Value := do
  let text ← scalarText nodes (nodes.size + 1) n
  match tag, (nodes.node n).form with
  | .timestamp, .mapping _ => .error .impossible
  | _, _ => Scalar.value tag n text

namespace Draft

/-- Gives a node its cell. -/
def setCell (n : Nat) (c : Cell) : Drafting Unit :=
  modify fun d => { d with cells := d.cells.setIfInBounds n (some c) }

/-- Meets a node for the first time. -/
def startNew (n : Nat) : Drafting Unit := do
  let d ← get
  match d.nodes.tag n with
  | .seq | .map | .omap | .pairs | .set =>
    setCell n (.list [])
    modify fun d => { d with waiting := n :: d.waiting }
  | .merge | .value | .unknown => throw .malformed
  | tag => setCell n (.plain (← scalarValue d.nodes n tag))

/-- Meets a node. -/
def start (n : Nat) : Drafting Unit := do
  if ((← get).cells.getD n none).isNone then startNew n

/-- Meets a node that is a key; collections are none. -/
def key (n : Nat) : Drafting Value := do
  start n
  match (← get).cells.getD n none with
  | some (.plain v) => return v
  | _ => throw .malformed

/-- The key and the number of the value of an entry. -/
def entry (e : Nat × Nat) : Drafting (Value × Nat) := do
  let k ← key e.1
  start e.2
  return (k, e.2)

/-- The entries of a mapping, merged first. -/
def entries (n : Nat) : Drafting (List (Value × Nat)) := do
  let d ← get
  match (d.nodes.node n).form with
  | .mapping _ =>
    let nodes ← d.nodes.merged n
    set { d with nodes }
    return ofPairs (← (nodes.node n).entries.mapM entry)
  | _ => throw .malformed

/-- The number of the pair that a mapping with a single entry stands for. -/
def pair (n : Nat) : Drafting Nat := do
  match ((← get).nodes.node n).form with
  | .mapping [(k, v)] =>
    start k
    start v
    let number := (← get).cells.size
    modify fun d => { d with cells := d.cells.push (some (.pair k v)) }
    return number
  | _ => throw .malformed

/-- The items of a sequence. -/
def items (n : Nat) : Drafting (List Nat) := do
  match ((← get).nodes.node n).form with
  | .sequence items => return items
  | _ => throw .malformed

/-- The keys of a set in order: whole numbers by their size, others as they come. -/
def ordered (keys : List Value) : List Value :=
  match keys.mapM fun k => match k with | .int n => some n | _ => none with
  | some numbers => (numbers.mergeSort fun a b => decide (a ≤ b)).map .int
  | none => keys

/-- Fills the cell of a collection. -/
def fill (n : Nat) : Drafting Unit := do
  match (← get).nodes.tag n with
  | .map => setCell n (.map (← entries n))
  | .set => setCell n (.set (ordered ((← entries n).map (·.1))))
  | .omap | .pairs =>
    let pairs ← (← items n).mapM pair
    setCell n (.list pairs)
  | _ =>
    let items ← items n
    items.forM start
    setCell n (.list items)

/-- Fills the collections that wait, and those that they make wait. Every node waits at most once.
-/
def fillAll : Nat → Drafting Unit
  | 0 => return
  | fuel + 1 => do
    let waiting := (← get).waiting.reverse
    if waiting.isEmpty then return
    modify fun d => { d with waiting := [] }
    waiting.forM fill
    fillAll fuel

end Draft

/-- The cells of a document. -/
def Graph.cells (g : Graph) : Except ReadFault Cells := do
  let size := g.nodes.size
  let draft : Draft := ⟨g.nodes, Array.replicate size none, []⟩
  let (_, draft) ← (do Draft.start g.root; Draft.fillAll (size + 1)).run draft
  return draft.cells.map (·.getD (.plain .null))

end ClientScribe.Yaml
