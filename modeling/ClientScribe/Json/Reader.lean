import ClientScribe.Json.Literal
import ClientScribe.Json.Number

/-!
# Reading JSON documents

A document is one value with white space around it. Besides the words of the format, `NaN`,
`Infinity` and `-Infinity` are read as floats. A repeated key of an object keeps its first place and
gets its last value. Values that are nested more deeply than allowed are impossible.

The readers of values, elements and fields call each other; every call is either behind a character
that has been read or directly behind such a call, which bounds their number by twice the length of
the text.
-/

namespace ClientScribe.Json

open Document (ReadFault Value Entries ofPairs)

/-- White space between the parts of a document. -/
def isSpace (c : Char) : Bool :=
  c == ' ' || c == '\t' || c == '\n' || c == '\r'

/-- The text without the white space at its start. -/
def skipSpace (s : Text) : Text :=
  s.dropWhile (·.satisfies isSpace)

/-- The words that stand for a value. -/
def words : List (Text × Value) :=
  [("null", .null), ("true", .bool true), ("false", .bool false), ("NaN", .nan none),
    ("Infinity", .float (1.0 / 0.0)), ("-Infinity", .float (-1.0 / 0.0))]

/-- Reads a word or a number. -/
def plainValue (s : Text) : Except ReadFault (Value × Text) :=
  match words.find? fun w => w.1.isPrefixOf s with
  | some (word, v) => .ok (v, s.drop word.length)
  | none => number s

/-- One level further inwards. -/
def inwards : Nat → Except ReadFault Nat
  | 0 => .error .impossible
  | depth + 1 => .ok depth

mutual

/-- Reads the value at the start of a text; `depth` is how deeply it may be nested. -/
def value (depth : Nat) : Nat → Text → Except ReadFault (Value × Text)
  | 0, _ => .error .malformed
  | fuel + 1, s =>
    match s with
    | .char '"' :: rest => do
      let (text, rest) ← literal rest
      return (.str text, rest)
    | .char '[' :: rest => do
      let depth ← inwards depth
      match skipSpace rest with
      | .char ']' :: rest => return (.list [], rest)
      | rest =>
        let (elements, rest) ← elements depth fuel rest
        return (.list elements, rest)
    | .char '\x7b' :: rest => do
      let depth ← inwards depth
      match skipSpace rest with
      | .char '\x7d' :: rest => return (.map [], rest)
      | rest =>
        let (fields, rest) ← fields depth fuel rest
        return (.map (ofPairs fields), rest)
    | s => plainValue s

/-- Reads the elements of an array up to its closing bracket. -/
def elements (depth : Nat) : Nat → Text → Except ReadFault (List Value × Text)
  | 0, _ => .error .malformed
  | fuel + 1, s => do
    let (v, rest) ← value depth fuel s
    match skipSpace rest with
    | .char ']' :: rest => return ([v], rest)
    | .char ',' :: rest => do
      let (more, rest) ← elements depth fuel (skipSpace rest)
      return (v :: more, rest)
    | _ => .error .malformed

/-- Reads the fields of an object up to its closing brace. -/
def fields (depth : Nat) : Nat → Text → Except ReadFault (Entries × Text)
  | 0, _ => .error .malformed
  | fuel + 1, s =>
    match s with
    | .char '"' :: rest => do
      let (key, rest) ← literal rest
      match skipSpace rest with
      | .char ':' :: rest => do
        let (v, rest) ← value depth fuel (skipSpace rest)
        match skipSpace rest with
        | .char '\x7d' :: rest => return ([(.str key, v)], rest)
        | .char ',' :: rest => do
          let (more, rest) ← fields depth fuel (skipSpace rest)
          return ((.str key, v) :: more, rest)
        | _ => .error .malformed
      | _ => .error .malformed
    | _ => .error .malformed

end

/-- Reads a whole document; `depth` is how deeply its values may be nested. -/
def read (depth : Nat) (text : Text) : Except ReadFault Value := do
  let (v, rest) ← value depth (2 * text.length + 2) (skipSpace text)
  if (skipSpace rest).isEmpty then return v else .error .malformed

end ClientScribe.Json
