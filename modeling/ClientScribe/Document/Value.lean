import ClientScribe.Document.Date
import ClientScribe.Text.Basic

/-!
# Values of a document

An API description is data without a fixed shape: any field may be absent or hold a value of any
kind. `Value` is such data. A mapping keeps the order of its entries, and its keys may be values of
other kinds than text. Numbers keep whether they were written as whole numbers or as floats.

A collection may contain itself. Such collections form a ring: each of them is written down once,
under a number, and a `link` inside stands for the member of the ring with that number. `Value.view`
is a value whose outermost collection is not a member of a ring any more; whoever looks at the parts
of a value looks at its view.

## Main definitions

* `Value.view`: the value with its parts at hand;
* `Value.isTrue`: which values count as given, which is all but null, false, zeros and what is
  empty;
* `Value.same`: equality of keys, under which numbers and booleans are compared by amount;
* `lookup` and `put`: the entries of a mapping by key.
-/

namespace ClientScribe.Document

/-- Data of a document. -/
inductive Value where
  | null
  | bool (b : Bool)
  | int (n : Int)
  | float (x : Float)
  /-- Not a number. All that are written by the word for it are the same one; a text read as a
  number gives one of its own. -/
  | nan (own : Option Nat)
  | str (s : Text)
  | list (elements : List Value)
  /-- A row of a fixed length. -/
  | tuple (parts : List Value)
  | map (entries : List (Value × Value))
  /-- Keys without values. -/
  | set (keys : List Value)
  | date (d : Date)
  | moment (m : Moment)
  | bytes (content : List UInt8)
  /-- Inside a ring, the member with a number. -/
  | link (id : Nat)
  /-- The member with a number of a ring. -/
  | looped (ring : List (Nat × Value)) (id : Nat)
  deriving Inhabited

namespace Value

/-- A part of a member of a ring, outside of the ring. -/
def outside (ring : List (Nat × Value)) : Value → Value
  | link id => looped ring id
  | v => v

/-- A member of a ring with its parts outside of the ring. -/
def opened (ring : List (Nat × Value)) : Value → Value
  | list elements => list (elements.map (outside ring))
  | tuple parts => tuple (parts.map (outside ring))
  | map entries => map (entries.map fun e => (e.1, outside ring e.2))
  | v => v

/-- The value with its parts at hand. -/
def view : Value → Value
  | looped ring id => opened ring ((ring.lookup id).getD null)
  | v => v

/-- Whether the value counts as given: null, false, zeros and empty collections do not. A collection
that contains itself is not empty. -/
def isTrue : Value → Bool
  | null => false
  | bool b => b
  | int n => n != 0
  | float x => x != 0.0
  | str s => !s.isEmpty
  | list elements => !elements.isEmpty
  | tuple parts => !parts.isEmpty
  | map entries => !entries.isEmpty
  | set keys => !keys.isEmpty
  | bytes content => !content.isEmpty
  | nan _ | date _ | moment _ | link _ | looped _ _ => true

/-- The value if it is given, the other one otherwise. -/
def orElse (v other : Value) : Value :=
  if v.isTrue then v else other

mutual

/-- Whether the value can be the key of a mapping: collections that can grow cannot. -/
def isKey : Value → Bool
  | list _ | map _ | set _ | link _ | looped _ _ => false
  | tuple parts => areKeys parts
  | _ => true

/-- Whether all values can be keys. -/
def areKeys : List Value → Bool
  | [] => true
  | v :: rest => isKey v && areKeys rest

end

/-- Whether the value is a mapping. -/
def isMap (v : Value) : Bool :=
  match v.view with
  | map _ => true
  | _ => false

/-- Whether the value is null. -/
def isNull : Value → Bool
  | null => true
  | _ => false

/-- Whether the value is the given text. -/
def isText (v : Value) (s : Text) : Bool :=
  match v with
  | str t => t == s
  | _ => false

/-- The amount of a boolean or a whole number. -/
def whole? : Value → Option Int
  | bool b => some (if b then 1 else 0)
  | int n => some n
  | _ => none

/-- Whether a float is the given whole number. -/
def floatIs (x : Float) (n : Int) : Bool :=
  (Decimal.Binary.ofFloat x).toInt? == some n

/-- Whether a value has the amount of a whole number. -/
def hasAmount (n : Int) : Value → Bool
  | float y => floatIs y n
  | w => w.whole? == some n

mutual

/-- Equality of keys. Booleans and numbers are equal if they have the same amount. -/
def same : Value → Value → Bool
  | null, w => w.isNull
  | bool b, w => hasAmount (if b then 1 else 0) w
  | int n, w => hasAmount n w
  | float x, w =>
    match w with
    | float y => x == y
    | w => match w.whole? with
      | some n => floatIs x n
      | none => false
  | nan a, w =>
    match w with
    | nan b => a == b
    | _ => false
  | str s, w => w.isText s
  | tuple xs, w =>
    match w with
    | tuple ys => samePairwise xs ys
    | _ => false
  | date d, w =>
    match w with
    | date e => d == e
    | _ => false
  | moment m, w =>
    match w with
    | moment n => m.same n
    | _ => false
  | bytes b, w =>
    match w with
    | bytes c => b == c
    | _ => false
  | _, _ => false

/-- Equality of rows of keys, one by one. -/
def samePairwise : List Value → List Value → Bool
  | [], [] => true
  | x :: xs, y :: ys => same x y && samePairwise xs ys
  | _, _ => false

end

end Value

/-- The entries of a mapping, in order. -/
abbrev Entries := List (Value × Value)

/-- The value of a text key. -/
def lookup (k : Text) : Entries → Option Value
  | [] => none
  | (key, v) :: rest => if key.isText k then some v else lookup k rest

/-- The value of any key. -/
def lookupKey (k : Value) : Entries → Option Value
  | [] => none
  | (key, v) :: rest => if key.same k then some v else lookupKey k rest

/-- The entries with the value of a key set: in its place if the key is there, else at the end. -/
def put {α : Type} (k : Value) (v : α) : List (Value × α) → List (Value × α)
  | [] => [(k, v)]
  | (key, old) :: rest => if key.same k then (key, v) :: rest else (key, old) :: put k v rest

/-- The entries without a key. -/
def erase (k : Text) (entries : Entries) : Entries :=
  entries.filter fun e => !e.1.isText k

/-- The text that a key is. -/
def Value.text? : Value → Option Text
  | str s => some s
  | _ => none

/-- Whether no text stands beside its equal. -/
def differFromNext : List Text → Bool
  | s :: t :: rest => s != t && differFromNext (t :: rest)
  | _ => true

/-- Whether the keys of pairs are texts, no two of them equal. -/
def haveDistinctTexts {α : Type} (pairs : List (Value × α)) : Bool :=
  match pairs.mapM (·.1.text?) with
  | some keys => differFromNext (keys.mergeSort fun s t => !t.before s)
  | none => false

/-- The mapping of a list of pairs: a repeated key keeps its first place and gets its last value. -/
def ofPairs {α : Type} (pairs : List (Value × α)) : List (Value × α) :=
  if haveDistinctTexts pairs then pairs
  else pairs.foldl (fun entries e => put e.1 e.2 entries) []

/-- The mapping with text keys of a list of fields. -/
def record (fields : List (Text × Value)) : Value :=
  .map (fields.map fun f => (.str f.1, f.2))

end ClientScribe.Document
