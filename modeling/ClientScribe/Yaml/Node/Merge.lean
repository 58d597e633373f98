import ClientScribe.Error
import ClientScribe.Yaml.Node.Basic

/-!
# Entries taken over from other mappings

A merge key makes a mapping take over the entries of another mapping, or of a sequence of mappings:
they come in front of its own, and of several mappings the earlier ones override the later ones.
Merging changes the nodes, since a mapping that others take over from is merged first. Where
mappings take over from each other in a circle, whoever is asked again has already given up its
merge keys.

A merge key is gone before its value is merged, so the number of merge keys bounds the depth.
-/

namespace ClientScribe.Yaml

open Document (ReadFault)

/-- A step that changes nodes. -/
abbrev Merging := StateT Nodes (Except ReadFault)

/-- Whether an entry has a key with a tag. -/
def hasKey (nodes : Nodes) (tag : Tag) (e : Nat × Nat) : Bool :=
  nodes.tag e.1 == tag

/-- The nodes without the first merge key of a mapping. -/
def dropMergeKey (nodes : Nodes) (n : Nat) : Nodes :=
  let entries := (nodes.node n).entries
  nodes.setForm n (.mapping (entries.eraseP (hasKey nodes .merge)))

/-- The nodes with entries in front of those of a mapping. The key that stands for a mapping's value
becomes a text like any other. -/
def putInFront (nodes : Nodes) (n : Nat) (taken : List (Nat × Nat)) : Nodes :=
  let entries := (nodes.node n).entries
  let nodes := (entries.filter (hasKey nodes .value)).foldl (fun nodes e => nodes.setTag e.1 .str)
    nodes
  nodes.setForm n (.mapping (taken ++ entries))

/-- The entries of a mapping that has been merged. -/
def mergedEntries (merge : Nat → Merging Unit) (n : Nat) : Merging (List (Nat × Nat)) := do
  merge n
  return ((← get).node n).entries

/-- The entries of a mapping that has been merged; any other node is none. -/
def itemEntries (merge : Nat → Merging Unit) (n : Nat) : Merging (List (Nat × Nat)) := do
  match ((← get).node n).form with
  | .mapping _ => mergedEntries merge n
  | _ => throw .malformed

/-- The entries that a merge key with a value takes over. -/
def takenOver (merge : Nat → Merging Unit) (n : Nat) : Merging (List (Nat × Nat)) := do
  match ((← get).node n).form with
  | .mapping _ => mergedEntries merge n
  | .sequence items => return (← items.mapM (itemEntries merge)).reverse.flatten
  | .scalar _ => throw .malformed

/-- The entries that a mapping takes over by one of its merge keys, which goes. If the merge keys
are gone already, there are none. -/
def takeOver (merge : Nat → Merging Unit) (n : Nat) (e : Nat × Nat) :
    Merging (List (Nat × Nat)) := do
  let nodes ← get
  if (nodes.node n).entries.any (hasKey nodes .merge) then
    modify (dropMergeKey · n)
    takenOver merge e.2
  else return []

/-- Merges a mapping: its merge keys go, and the entries taken over come. -/
def merge : Nat → Nat → Merging Unit
  | 0, _ => return
  | fuel + 1, n => do
    let nodes ← get
    let keys := (nodes.node n).entries.filter (hasKey nodes .merge)
    let taken ← keys.mapM (takeOver (merge fuel) n)
    modify (putInFront · n taken.flatten)

/-- The number of merge keys. -/
def mergeCount (nodes : Nodes) : Nat :=
  nodes.foldl (fun sum n => sum + (n.entries.filter (hasKey nodes .merge)).length) 0

/-- The nodes with a mapping merged. -/
def Nodes.merged (nodes : Nodes) (n : Nat) : Except ReadFault Nodes := do
  if (nodes.node n).entries.any fun e => hasKey nodes .merge e || hasKey nodes .value e then
    let (_, nodes) ← (merge (mergeCount nodes + 1) n).run nodes
    return nodes
  else return nodes

end ClientScribe.Yaml
