import ClientScribe.Yaml.Node.Basic
import ClientScribe.Yaml.Scalar.Shape
import ClientScribe.Yaml.Token.Basic

/-!
# The nodes of a row of tokens

A text holds at most one document. Its tokens are read into nodes from left to right; the readers of
nodes, sequences and mappings call each other. A collection gets its number before its parts are
read, so a name given to it may be used within it.

Every call is behind a token that has been read or directly behind such a call, so a multiple of the
number of tokens bounds their number. Collections that are nested more deeply than allowed are
impossible.
-/

namespace ClientScribe.Yaml

open Document (ReadFault)

/-- What is left to read, the nodes so far, the numbers of those with a name, and the starts that
tag handles stand for. -/
structure Feed where
  tokens : List Token
  nodes : Nodes
  anchors : List (String × Nat)
  handles : List (String × String)

/-- A step of reading. -/
abbrev Reading := StateT Feed (Except ReadFault)

namespace Reading

/-- The fault of a row of tokens that cannot go on here. -/
def faultAt : List Token → ReadFault
  | .fault f :: _ => f
  | _ => .malformed

/-- Gives up on the next token. -/
def fail {α : Type} : Reading α := fun f => .error (faultAt f.tokens)

/-- The next token. -/
def peek? : Reading (Option Token) := do
  return (← get).tokens.head?

/-- Goes behind the next token. -/
def advance : Reading Unit :=
  modify fun f => { f with tokens := f.tokens.drop 1 }

/-- One level further inwards. -/
def inwards : Nat → Reading Nat
  | 0 => throw .impossible
  | depth + 1 => return depth

end Reading

open Reading (fail faultAt peek? advance inwards)

/-- What stands in front of a node. -/
structure Properties where
  anchor : Option String
  /-- The address of a tag, if one is written. -/
  tag : Option String

/-- The address of a tag. -/
def tagAddress (handle : Option String) (suffix : String) : Reading String := do
  match handle with
  | none => return suffix
  | some handle =>
    match (← get).handles.lookup handle with
    | some start => return start ++ suffix
    | none => throw .malformed

/-- Reads the anchor and the tag of a node, in either order. -/
def properties : Reading Properties := do
  match ← peek? with
  | some (.anchor name) =>
    advance
    match ← peek? with
    | some (.tag handle suffix) => do
      advance
      return ⟨some name, some (← tagAddress handle suffix)⟩
    | _ => return ⟨some name, none⟩
  | some (.tag handle suffix) =>
    advance
    match ← peek? with
    | some (.anchor name) => do
      advance
      return ⟨some name, some (← tagAddress handle suffix)⟩
    | some (.fault f) => throw f
    | _ => return ⟨none, some (← tagAddress handle suffix)⟩
  | _ => return ⟨none, none⟩

/-- The address that leaves the choice of the tag to the node. -/
def openTag : String := "!"

/-- The tag of a collection. -/
def Properties.collectionTag (p : Properties) (usual : Tag) : Tag :=
  match p.tag with
  | none => usual
  | some address => if address == openTag then usual else Tag.ofAddress address

/-- The tag of a scalar: the written one, else by its shape if it is plain. -/
def Properties.scalarTag (p : Properties) (text : Text) (plain : Bool) : Tag :=
  match p.tag with
  | none => if plain then Shape.tag text else .str
  | some address => if address == openTag then Shape.tag text else Tag.ofAddress address

/-- The number of a new node. -/
def add (n : Node) : Reading Nat := do
  let number := (← get).nodes.size
  modify fun f => { f with nodes := f.nodes.push n }
  return number

/-- The number of a new node with a name, if it has one; a name is given once. -/
def addNamed (p : Properties) (n : Node) : Reading Nat := do
  let number ← add n
  match p.anchor with
  | none => return number
  | some name =>
    let f ← get
    if (f.anchors.lookup name).isSome then fail
    else
      set { f with anchors := (name, number) :: f.anchors }
      return number

/-- The number of the node with a name. -/
def named (name : String) : Reading Nat := do
  match (← get).anchors.lookup name with
  | some number => return number
  | none => throw .malformed

/-- The number of a new sequence whose items are read by a step. -/
def addSequence (p : Properties) (items : Reading (List Nat)) : Reading Nat := do
  let number ← addNamed p ⟨p.collectionTag .seq, .sequence []⟩
  let items ← items
  modify fun f => { f with nodes := f.nodes.setForm number (.sequence items) }
  return number

/-- The number of a new mapping whose entries are read by a step. -/
def addMapping (p : Properties) (entries : Reading (List (Nat × Nat))) : Reading Nat := do
  let number ← addNamed p ⟨p.collectionTag .map, .mapping []⟩
  let entries ← entries
  modify fun f => { f with nodes := f.nodes.setForm number (.mapping entries) }
  return number

/-- Where a node stands, which decides the collections it can be. -/
inductive Place where
  /-- Inside brackets. -/
  | flow
  | block
  /-- The key or the value of a block mapping, where a sequence needs no indentation. -/
  | entry
  deriving DecidableEq

/-- Whether a token ends the empty key or value of a block mapping. -/
def endsEntry : Option Token → Bool
  | some .key | some .value | some .blockEnd => true
  | _ => false

/-- Whether a token ends an empty element of a sequence without indentation. -/
def endsElement : Option Token → Bool
  | some .blockEntry => true
  | t => endsEntry t

/-- Whether a token ends an empty element of an indented sequence. -/
def endsItem : Option Token → Bool
  | some .blockEntry | some .blockEnd => true
  | _ => false

/-- Whether a token ends an empty key inside brackets. -/
def endsFlow (closing : Token → Bool) : Option Token → Bool
  | some .value | some .flowEntry => true
  | some t => closing t
  | none => false

/-- Whether a token ends an empty value inside brackets. -/
def endsFlowValue (closing : Token → Bool) : Option Token → Bool
  | some .flowEntry => true
  | some t => closing t
  | none => false

/-- Whether a token closes a sequence in brackets. -/
def closesSequence : Token → Bool
  | .flowSequenceEnd => true
  | _ => false

/-- Whether a token closes a mapping in braces. -/
def closesMapping : Token → Bool
  | .flowMappingEnd => true
  | _ => false

/-- The empty node that only an anchor or a tag announces. -/
def bareNode (p : Properties) : Reading Nat :=
  if p.anchor.isNone && p.tag.isNone then fail
  else
    let tag :=
      match p.tag with
      | none => .null
      | some address => if address == openTag then .null else Tag.ofAddress address
    addNamed p ⟨tag, .scalar []⟩

mutual

/-- Reads a node; `depth` is how deeply collections may be nested in it. -/
def node (place : Place) (depth : Nat) : Nat → Reading Nat
  | 0 => fail
  | fuel + 1 => do
    match ← peek? with
    | some (.alias name) =>
      advance
      named name
    | _ =>
      let p ← properties
      match ← peek? with
      | some .blockEntry =>
        if place == .entry then do
          let depth ← inwards depth
          addSequence p (looseElements depth fuel)
        else bareNode p
      | some (.scalar text plain) =>
        let number ← addNamed p ⟨p.scalarTag text plain, .scalar text⟩
        advance
        return number
      | some .flowSequenceStart =>
        let depth ← inwards depth
        addSequence p (do advance; flowItems true depth fuel)
      | some .flowMappingStart =>
        let depth ← inwards depth
        addMapping p (do advance; flowEntries true depth fuel)
      | some .blockSequenceStart =>
        if place == .flow then bareNode p
        else
          let depth ← inwards depth
          addSequence p (do advance; elements depth fuel)
      | some .blockMappingStart =>
        if place == .flow then bareNode p
        else
          let depth ← inwards depth
          addMapping p (do advance; entries depth fuel)
      | _ => bareNode p
termination_by structural fuel => fuel

/-- Reads the elements of an indented sequence and its end. -/
def elements (depth : Nat) : Nat → Reading (List Nat)
  | 0 => fail
  | fuel + 1 => do
    match ← peek? with
    | some .blockEntry =>
      advance
      let first ← if endsItem (← peek?) then add .empty else node .block depth fuel
      return first :: (← elements depth fuel)
    | some .blockEnd =>
      advance
      return []
    | _ => fail
termination_by structural fuel => fuel

/-- Reads the elements of a sequence without indentation. -/
def looseElements (depth : Nat) : Nat → Reading (List Nat)
  | 0 => fail
  | fuel + 1 => do
    match ← peek? with
    | some .blockEntry =>
      advance
      let first ← if endsElement (← peek?) then add .empty else node .block depth fuel
      return first :: (← looseElements depth fuel)
    | _ => return []
termination_by structural fuel => fuel

/-- Reads the value of a block mapping, if there is one. -/
def entryValue (depth : Nat) : Nat → Reading Nat
  | 0 => fail
  | fuel + 1 => do
    match ← peek? with
    | some .value =>
      advance
      if endsEntry (← peek?) then add .empty else node .entry depth fuel
    | _ => add .empty
termination_by structural fuel => fuel

/-- Reads the entries of a block mapping and its end. -/
def entries (depth : Nat) : Nat → Reading (List (Nat × Nat))
  | 0 => fail
  | fuel + 1 => do
    match ← peek? with
    | some .key =>
      advance
      let k ← if endsEntry (← peek?) then add .empty else node .entry depth fuel
      let v ← entryValue depth fuel
      return (k, v) :: (← entries depth fuel)
    | some .blockEnd =>
      advance
      return []
    | _ => fail
termination_by structural fuel => fuel

/-- Reads the value inside brackets, if there is one. -/
def flowValue (closing : Token → Bool) (depth : Nat) : Nat → Reading Nat
  | 0 => fail
  | fuel + 1 => do
    match ← peek? with
    | some .value =>
      advance
      if endsFlowValue closing (← peek?) then add .empty else node .flow depth fuel
    | _ => add .empty
termination_by structural fuel => fuel

/-- Reads the items of a sequence in brackets and its end; an item may be a single entry. -/
def flowItems (first : Bool) (depth : Nat) : Nat → Reading (List Nat)
  | 0 => fail
  | fuel + 1 => do
    match ← peek? with
    | some .flowSequenceEnd =>
      advance
      return []
    | next =>
      if !first then
        match next with
        | some .flowEntry => advance
        | _ => fail
      match ← peek? with
      | some .flowSequenceEnd =>
        advance
        return []
      | some .key =>
        let inner ← inwards depth
        let item ← addMapping ⟨none, none⟩ do
          advance
          let k ←
            if endsFlow closesSequence (← peek?) then add .empty else node .flow inner fuel
          let v ← flowValue closesSequence inner fuel
          return [(k, v)]
        return item :: (← flowItems false depth fuel)
      | _ =>
        let item ← node .flow depth fuel
        return item :: (← flowItems false depth fuel)
termination_by structural fuel => fuel

/-- Reads the entries of a mapping in braces and its end; an entry may be a key alone. -/
def flowEntries (first : Bool) (depth : Nat) : Nat → Reading (List (Nat × Nat))
  | 0 => fail
  | fuel + 1 => do
    match ← peek? with
    | some .flowMappingEnd =>
      advance
      return []
    | next =>
      if !first then
        match next with
        | some .flowEntry => advance
        | _ => fail
      match ← peek? with
      | some .flowMappingEnd =>
        advance
        return []
      | some .key =>
        advance
        let k ← if endsFlow closesMapping (← peek?) then add .empty else node .flow depth fuel
        let v ← flowValue closesMapping depth fuel
        return (k, v) :: (← flowEntries false depth fuel)
      | _ =>
        let k ← node .flow depth fuel
        let v ← add .empty
        return (k, v) :: (← flowEntries false depth fuel)
termination_by structural fuel => fuel

end

/-- The tag handles that need no directive. -/
def usualHandles : List (String × String) := [("!", "!"), ("!!", Tag.addressStart)]

/-- Reads the directives in front of a document: at most one version, of the first generation, and
every handle at most once. -/
def directives (versioned : Bool) (handles : List (String × String)) :
    List Token → Except ReadFault (List (String × String) × List Token)
  | .directive d :: rest =>
    match d with
    | .version major _ =>
      if versioned || major != 1 then .error .malformed else directives true handles rest
    | .tagHandle handle start =>
      if (handles.lookup handle).isSome then .error .malformed
      else directives versioned ((handle, start) :: handles) rest
    | .other => directives versioned handles rest
  | rest => .ok (handles ++ usualHandles, rest)

/-- Drops the marks that end a document. -/
def dropDocumentEnds : List Token → List Token
  | .documentEnd :: rest => dropDocumentEnds rest
  | rest => rest

/-- The fault of a further document: that of its directives, or of what stands behind them. -/
def laterFault (tokens : List Token) : ReadFault :=
  match directives false [] tokens with
  | .error f => f
  | .ok (_, rest) => faultAt rest

/-- The document with a root, if nothing but marks that end a document follows. -/
def alone (g : Graph) (rest : List Token) : Except ReadFault Graph :=
  let rest := dropDocumentEnds rest
  if rest.isEmpty then .ok g else .error (laterFault rest)

/-- The document whose root node stands at the start of a row of tokens. -/
def rooted (depth : Nat) (handles : List (String × String)) (tokens : List Token) :
    Except ReadFault Graph := do
  let (n, f) ← (node .block depth (3 * tokens.length + 3)).run ⟨tokens, #[], [], handles⟩
  alone ⟨f.nodes, n⟩ f.tokens

/-- The document without anything in it. -/
def emptyDocument : Graph := ⟨#[.empty], 0⟩

/-- The document of a row of tokens, if it holds one; `depth` is how deeply its collections may be
nested. -/
def Graph.ofTokens? (depth : Nat) (tokens : List Token) : Except ReadFault (Option Graph) := do
  match tokens with
  | [] => return none
  | .directive _ :: _ | .documentStart :: _ =>
    match ← directives false [] tokens with
    | (handles, .documentStart :: rest) =>
      match rest with
      | [] | .documentEnd :: _ => return some (← alone emptyDocument rest)
      | .directive _ :: _ | .documentStart :: _ => .error (laterFault rest)
      | rest => return some (← rooted depth handles rest)
    | (_, rest) => .error (faultAt rest)
  | tokens => return some (← rooted depth usualHandles tokens)

end ClientScribe.Yaml
