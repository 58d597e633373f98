import ClientScribe.Yaml.Scalar.Block
import ClientScribe.Yaml.Scalar.Plain
import ClientScribe.Yaml.Scalar.Quoted
import ClientScribe.Yaml.Token.Property

/-!
# The tokens of a text

The lexer turns a text into tokens. Outside brackets it keeps the open indents, and the end of an
indent closes its collection. A node that turns out to be a key because a colon follows it becomes
one after the fact: the lexer remembers for every level of brackets where the last such node
started, and puts the key token in front of it. A node can be a key this way only on one line and
within 1024 characters.

Tokens are kept last first, so that putting a key token in place touches only the tokens behind it.
-/

namespace ClientScribe.Yaml

open Document (ReadFault)

/-- The start of a node that may turn out to be a key. -/
structure KeyStart where
  /-- The number of tokens in front of the node. -/
  tokensBefore : Nat
  /-- Whether nothing but a key can stand there. -/
  required : Bool
  index : Nat
  line : Nat
  column : Nat

/-- What the lexer knows in the middle of a text. -/
structure Lexer where
  cursor : Cursor
  /-- The tokens so far, last first. -/
  tokens : List Token
  count : Nat
  /-- The current indent and the ones around it. -/
  indent : Int
  outer : List Int
  /-- Whether a key may start here. -/
  keyAllowed : Bool
  /-- The possible key outside the innermost brackets, then that of every enclosing level. -/
  keyHere : Option KeyStart
  keysAround : List (Option KeyStart)

namespace Lexer

/-- The lexer at the start of a text. -/
def start (s : List Char) : Lexer where
  cursor := Cursor.start s
  tokens := []
  count := 0
  indent := -1
  outer := []
  keyAllowed := true
  keyHere := none
  keysAround := []

/-- Whether the lexer is inside brackets. -/
def inFlow (x : Lexer) : Bool := !x.keysAround.isEmpty

/-- The lexer with one more token. -/
def push (t : Token) (x : Lexer) : Lexer :=
  { x with tokens := t :: x.tokens, count := x.count + 1 }

/-- The lexer with a token put behind the first tokens. -/
def insertAfter (n : Nat) (t : Token) (x : Lexer) : Lexer :=
  let later := x.count - n
  { x with tokens := x.tokens.take later ++ t :: x.tokens.drop later, count := x.count + 1 }

/-- The lexer at another place. -/
def at_ (c : Cursor) (x : Lexer) : Lexer := { x with cursor := c }

/-- The lexer behind the spaces, comments and line ends in front of the next token. Behind a line
end outside brackets a key may start. -/
def skipToToken : Nat → Lexer → Lexer
  | 0, x => x
  | fuel + 1, x =>
    let c := x.cursor.skipSpaces.skipComment
    let (ending, after) := c.takeBreak
    if ending.isEmpty then x.at_ c
    else
      let x := x.at_ after
      skipToToken fuel (if x.inFlow then x else { x with keyAllowed := true })

/-- Whether a possible key is given up at the cursor: on another line or too far away. -/
def isStale (c : Cursor) (k : KeyStart) : Bool :=
  k.line != c.line || 1024 < c.index - k.index

/-- A possible key of one level after those that are given up. -/
def keepFresh (c : Cursor) : Option KeyStart → Except ReadFault (Option KeyStart)
  | none => .ok none
  | some k =>
    if isStale c k then (if k.required then .error .malformed else .ok none) else .ok (some k)

/-- The lexer without the possible keys that are given up. -/
def dropStale (x : Lexer) : Except ReadFault Lexer := do
  let around ← x.keysAround.mapM (keepFresh x.cursor)
  let here ← keepFresh x.cursor x.keyHere
  return { x with keysAround := around, keyHere := here }

/-- The lexer without the possible key of the current level. -/
def dropKey (x : Lexer) : Except ReadFault Lexer :=
  match x.keyHere with
  | some k => if k.required then .error .malformed else .ok { x with keyHere := none }
  | none => .ok x

/-- The lexer with the next token remembered as a possible key. -/
def saveKey (x : Lexer) : Except ReadFault Lexer :=
  if x.keyAllowed then do
    let required := !x.inFlow && x.indent == Int.ofNat x.cursor.column
    let y ← x.dropKey
    let c := y.cursor
    return { y with keyHere := some ⟨y.count, required, c.index, c.line, c.column⟩ }
  else .ok x

/-- Closes the collections whose indent is greater than a column, innermost first. -/
def closeIndents (column : Int) (indent : Int) : List Int → Lexer → Lexer
  | [], x => { x with indent := indent, outer := [] }
  | around :: outer, x =>
    if column < indent then closeIndents column around outer (x.push .blockEnd)
    else { x with indent := indent, outer := around :: outer }

/-- The lexer with the collections closed whose indent is greater than a column. -/
def unwind (column : Int) (x : Lexer) : Lexer :=
  if x.inFlow then x else closeIndents column x.indent x.outer x

/-- Whether a collection starts at a column: its indent is greater than the current one. -/
def opens (column : Nat) (x : Lexer) : Bool :=
  x.indent < Int.ofNat column

/-- The lexer with the indent of a collection that starts at a column. -/
def enter (column : Nat) (x : Lexer) : Lexer :=
  { x with indent := Int.ofNat column, outer := x.indent :: x.outer }

/-- A directive. -/
def directive (x : Lexer) : Except ReadFault Lexer := do
  let x ← (x.unwind (-1)).dropKey
  let (token, c) ← Property.directive x.cursor
  return { (x.push token) with keyAllowed := false, cursor := c }

/-- A mark between documents. -/
def documentMark (token : Token) (x : Lexer) : Except ReadFault Lexer := do
  let x ← (x.unwind (-1)).dropKey
  return { (x.push token) with keyAllowed := false, cursor := x.cursor.skip 3 }

/-- An opening bracket. -/
def openFlow (token : Token) (x : Lexer) : Except ReadFault Lexer := do
  let x ← x.saveKey
  return { (x.push token) with
    keyAllowed := true, cursor := x.cursor.next, keyHere := none,
    keysAround := x.keyHere :: x.keysAround }

/-- A closing bracket; there must be one to close. -/
def closeFlow (token : Token) (x : Lexer) : Except ReadFault Lexer := do
  let x ← x.dropKey
  match x.keysAround with
  | [] => .error .malformed
  | here :: around =>
    return { (x.push token) with
      keyAllowed := false, cursor := x.cursor.next, keyHere := here, keysAround := around }

/-- A comma inside brackets. -/
def flowEntry (x : Lexer) : Except ReadFault Lexer := do
  let x ← x.dropKey
  return { (x.push .flowEntry) with keyAllowed := true, cursor := x.cursor.next }

/-- The hyphen of a sequence or the question mark of a key, which outside brackets may start a
collection. -/
def indicator (collection token : Token) (keyAllowed : Bool) (x : Lexer) :
    Except ReadFault Lexer := do
  if !x.inFlow && !x.keyAllowed then .error .malformed
  let column := x.cursor.column
  let x := if !x.inFlow && x.opens column then (x.enter column).push collection else x
  let x ← x.dropKey
  return { (x.push token) with keyAllowed := keyAllowed, cursor := x.cursor.next }

/-- The colon in front of a value. -/
def value (x : Lexer) : Except ReadFault Lexer := do
  match x.keyHere with
  | some k =>
    let x := { x with keyHere := none }.insertAfter k.tokensBefore .key
    let x :=
      if !x.inFlow && x.opens k.column then
        (x.enter k.column).insertAfter k.tokensBefore .blockMappingStart
      else x
    return { (x.push .value) with keyAllowed := false, cursor := x.cursor.next }
  | none =>
    if !x.inFlow && !x.keyAllowed then .error .malformed
    let column := x.cursor.column
    let x := if !x.inFlow && x.opens column then (x.enter column).push .blockMappingStart else x
    return { (x.push .value) with keyAllowed := !x.inFlow, cursor := x.cursor.next }

/-- A token that may be a key or the start of one. -/
def nodePart (read : Cursor → Except ReadFault (Token × Cursor)) (x : Lexer) :
    Except ReadFault Lexer := do
  let x ← x.saveKey
  let (token, c) ← read x.cursor
  return { (x.push token) with keyAllowed := false, cursor := c }

/-- The name of an anchor or an alias, as a token. -/
def named (token : String → Token) (c : Cursor) : Except ReadFault (Token × Cursor) := do
  let (name, c) ← Property.anchorName c.next
  return (token name, c)

/-- A quoted scalar, as a token. -/
def quoted (double : Bool) (c : Cursor) : Except ReadFault (Token × Cursor) := do
  let (text, c) ← Quoted.read double c
  return (.scalar text false, c)

/-- A block scalar. -/
def block (folded : Bool) (x : Lexer) : Except ReadFault Lexer := do
  let x ← x.dropKey
  let (text, c) ← Block.read folded x.indent x.cursor
  return { (x.push (.scalar text false)) with keyAllowed := true, cursor := c }

/-- A plain scalar. -/
def plain (x : Lexer) : Except ReadFault Lexer := do
  let x ← x.saveKey
  let s := Plain.read x.inFlow x.indent x.cursor
  return { (x.push (.scalar (Text.ofChars s.text) true)) with
    keyAllowed := s.atLineEnd, cursor := s.cursor }

/-- The characters that no plain scalar starts with, unless a rule of `startsPlain` says so. -/
def isIndicator (c : Char) : Bool :=
  "-?:,[]\x7b\x7d#&*!|>'\"%@\x60".toList.contains c

/-- Whether a plain scalar starts here. A hyphen may start one in front of a character that is no
blank, and outside brackets a question mark or a colon may, too. -/
def startsPlain (c : Char) (following : Option Char) (flow : Bool) : Bool :=
  (!isBlank c && !isIndicator c) ||
    (!isBlankOrEnd following && (c == '-' || (!flow && (c == '?' || c == ':'))))

/-- The lexer with the next token, at the token's first character. -/
def token (c : Char) (x : Lexer) : Except ReadFault Lexer :=
  let following := x.cursor.second?
  let flow := x.inFlow
  if c == '%' && x.cursor.column == 0 then x.directive
  else if x.cursor.column == 0 && x.cursor.atMarks '-' then x.documentMark .documentStart
  else if x.cursor.column == 0 && x.cursor.atMarks '.' then x.documentMark .documentEnd
  else if c == '[' then x.openFlow .flowSequenceStart
  else if c == '\x7b' then x.openFlow .flowMappingStart
  else if c == ']' then x.closeFlow .flowSequenceEnd
  else if c == '\x7d' then x.closeFlow .flowMappingEnd
  else if c == ',' then x.flowEntry
  else if c == '-' && isBlankOrEnd following then x.indicator .blockSequenceStart .blockEntry true
  else if c == '?' && (flow || isBlankOrEnd following) then
    x.indicator .blockMappingStart .key (!flow)
  else if c == ':' && (flow || isBlankOrEnd following) then x.value
  else if c == '*' then x.nodePart (named .alias)
  else if c == '&' then x.nodePart (named .anchor)
  else if c == '!' then x.nodePart Property.tag
  else if c == '|' && !flow then x.block false
  else if c == '>' && !flow then x.block true
  else if c == '\'' then x.nodePart (quoted false)
  else if c == '"' then x.nodePart (quoted true)
  else if startsPlain c following flow then x.plain
  else .error .malformed

/-- The tokens so far that no key token can come in front of any more. -/
def settled (x : Lexer) : List Token :=
  let starts := (x.keyHere :: x.keysAround).filterMap (·.map KeyStart.tokensBefore)
  x.tokens.reverse.take (starts.foldl min x.count)

/-- The lexer in front of the next token, with the collections closed that end there. -/
def approach (x : Lexer) : Except ReadFault Lexer := do
  let x ← (x.skipToToken (x.cursor.size + 1)).dropStale
  return x.unwind (Int.ofNat x.cursor.column)

/-- The lexer behind the next token, or nothing at the end of the text. -/
def next? (x : Lexer) : Except ReadFault (Option Lexer) := do
  let x ← x.approach
  match x.cursor.peek? with
  | none => return none
  | some c => return some (← x.token c)

/-- All tokens of a lexer at the end of the text. -/
def last (x : Lexer) : Except ReadFault (List Token) := do
  let x ← (← x.approach).unwind (-1) |>.dropKey
  return x.tokens.reverse

/-- All tokens from here to the end of the text. Every token takes at least one character. A fault
ends the tokens, behind those that are settled when the token before it ends. -/
def all : Nat → Lexer → List Token
  | 0, _ => [.fault .malformed]
  | fuel + 1, x =>
    match x.dropStale with
    | .error f => x.settled ++ [.fault f]
    | .ok x =>
      match x.next? with
      | .error f => x.settled ++ [.fault f]
      | .ok (some y) => all fuel y
      | .ok none =>
        match x.last with
        | .error f => x.settled ++ [.fault f]
        | .ok tokens => tokens

end Lexer

/-- The tokens of a text; a byte order mark may stand in front of them. -/
def tokens (s : List Char) : List Token :=
  let x := Lexer.start s
  let x := if s.head? == some byteOrderMark then x.at_ x.cursor.next else x
  x.all (s.length + 1)

end ClientScribe.Yaml
