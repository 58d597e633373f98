import ClientScribe.Text.Basic
import ClientScribe.Yaml.Tag

/-!
# Nodes of a YAML document

A document is a graph of nodes with tags. Collections hold their parts by number, so a node that the
text refers to by name is there only once, and a collection may be a part of itself.
-/

namespace ClientScribe.Yaml

/-- What a node is made of; parts are given by their numbers. -/
inductive Form where
  | scalar (text : Text)
  | sequence (items : List Nat)
  | mapping (entries : List (Nat × Nat))

/-- A node of a document. -/
structure Node where
  tag : Tag
  form : Form

namespace Node

/-- The node that stands where there is none. -/
def empty : Node := ⟨.null, .scalar []⟩

/-- The entries of a mapping; other nodes have none. -/
def entries (n : Node) : List (Nat × Nat) :=
  match n.form with
  | .mapping entries => entries
  | _ => []

end Node

/-- The nodes of a document by number. -/
abbrev Nodes := Array Node

namespace Nodes

/-- The node with a number. -/
def node (nodes : Nodes) (n : Nat) : Node := nodes.getD n .empty

/-- The tag of the node with a number. -/
def tag (nodes : Nodes) (n : Nat) : Tag := (nodes.node n).tag

/-- The nodes with another form for the one with a number. -/
def setForm (nodes : Nodes) (n : Nat) (form : Form) : Nodes :=
  nodes.setIfInBounds n { nodes.node n with form }

/-- The nodes with another tag for the one with a number. -/
def setTag (nodes : Nodes) (n : Nat) (tag : Tag) : Nodes :=
  nodes.setIfInBounds n { nodes.node n with tag }

end Nodes

/-- A document: its nodes, and the number of its root. -/
structure Graph where
  nodes : Nodes
  root : Nat

end ClientScribe.Yaml
