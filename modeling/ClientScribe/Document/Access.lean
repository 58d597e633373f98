import ClientScribe.Document.Text

/-!
# Using a value as what it is expected to be

A document has no fixed shape, so every use of a value asks first whether its kind allows the use.
A use that the kind does not allow ends the run as a misfit. Some uses are wider than they look:
`has` asks a mapping for a key, a list for an element and a text for a part, and `members` of a text
are its characters.
-/

namespace ClientScribe

/-- Whether a text is a part of another. -/
def isPartOf (part : Text) : Text → Bool
  | [] => part.isEmpty
  | c :: rest => part.isPrefixOf (c :: rest) || isPartOf part rest

namespace Document

namespace Value

/-- The entries of a mapping. -/
def entries (v : Value) : Result Entries :=
  match v.view with
  | map entries => .ok entries
  | _ => misfit

/-- The text itself. -/
def asText : Value → Result Text
  | str s => .ok s
  | _ => misfit

/-- The field of a mapping, if it is there. -/
def field? (v : Value) (k : Text) : Result (Option Value) :=
  v.entries.map (lookup k)

/-- The field of a mapping, or another value if it is absent. -/
def fieldOr (v : Value) (k : Text) (other : Value) : Result Value :=
  (v.field? k).map (·.getD other)

/-- The field of a mapping, null if it is absent. -/
def field (v : Value) (k : Text) : Result Value :=
  v.fieldOr k null

/-- The field of a mapping, which must be there. -/
def demand (v : Value) (k : Text) : Result Value := do
  match ← v.field? k with
  | some w => .ok w
  | none => misfit

/-- Whether a mapping has the key, another collection the element, or a text the part. -/
def has (v : Value) (k : Text) : Result Bool :=
  match v.view with
  | map entries => .ok (lookup k entries).isSome
  | list elements => .ok (elements.any (·.isText k))
  | tuple parts => .ok (parts.any (·.isText k))
  | set keys => .ok (keys.any (·.isText k))
  | str s => .ok (isPartOf k s)
  | _ => misfit

/-- What a loop over the value meets: elements, keys, code points or bytes. -/
def members (v : Value) : Result (List Value) :=
  match v.view with
  | list elements => .ok elements
  | tuple parts => .ok parts
  | map entries => .ok (entries.map (·.1))
  | set keys => .ok keys
  | str s => .ok (s.map fun c => str [c])
  | bytes content => .ok (content.map fun b => int b.toNat)
  | _ => misfit

/-- The number of members. -/
def count (v : Value) : Result Nat :=
  v.members.map List.length

/-- The member at a position; of a mapping, what it has at that number. The members of a set have no
positions. -/
def member (v : Value) (n : Nat) : Result Value :=
  match v.view with
  | map entries =>
    match lookupKey (int n) entries with
    | some w => .ok w
    | none => misfit
  | set _ => misfit
  | v => do
    match (← v.members)[n]? with
    | some w => .ok w
    | none => misfit

/-- The entry that a pair stands for: two members, the first of which can be a key. -/
def asEntry (v : Value) : Result (Value × Value) := do
  match ← v.members with
  | [k, w] => if k.isKey then .ok (k, w) else misfit
  | _ => misfit

/-- The value as a mapping: a mapping itself, or a collection of pairs. -/
def asEntries (v : Value) : Result Entries :=
  match v.view with
  | map entries => .ok entries
  | v => do
    let pairs ← (← v.members).mapM asEntry
    return ofPairs pairs

end Value

end Document

end ClientScribe
