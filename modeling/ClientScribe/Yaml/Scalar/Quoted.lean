import ClientScribe.Text.Basic
import ClientScribe.Text.Digit
import ClientScribe.Yaml.Cursor

/-!
# Quoted scalars

A scalar between single or double quotes may run over several lines: a line end and the spaces
around it become one space, and further line ends stay. Between single quotes only the quote itself
is special, between double quotes the backslash starts an escape.
-/

namespace ClientScribe.Yaml.Quoted

open Document (ReadFault)

/-- The character that a one-letter escape writes. -/
def escapedChar? (c : Char) : Option Char :=
  let number : Option Nat :=
    match c with
    | '0' => some 0
    | 'a' => some 7
    | 'b' => some 8
    | 't' => some 9
    | '\t' => some 9
    | 'n' => some 10
    | 'v' => some 11
    | 'f' => some 12
    | 'r' => some 13
    | 'e' => some 27
    | ' ' => some 32
    | '"' => some 34
    | '\\' => some 92
    | '/' => some 47
    | 'N' => some 0x85
    | '_' => some 0xA0
    | 'L' => some 0x2028
    | 'P' => some 0x2029
    | _ => none
  number.map Char.ofNat

/-- The number of hexadecimal digits of a numeric escape. -/
def escapeWidth? : Char → Option Nat
  | 'x' => some 2
  | 'u' => some 4
  | 'U' => some 8
  | _ => none

/-- The code point with a number, which may be half of a pair. -/
def pointOfNumber (n : Nat) : Except ReadFault CodePoint :=
  if 0x110000 ≤ n then .error .impossible else .ok (.ofNat n)

/-- The line ends in front of the next character that is neither space nor tab nor a line end. A
mark between documents must not stand at the start of a line. -/
def breaks : Nat → Cursor → Except ReadFault (List Char × Cursor)
  | 0, _ => .error .malformed
  | fuel + 1, c =>
    if c.atDocumentMark then .error .malformed
    else
      let c := c.skipWhile fun x => x == ' ' || x == '\t'
      if isBreakOrEnd c.peek? && !c.rest.isEmpty then do
        let (first, c) := c.takeBreak
        let (more, c) ← breaks fuel c
        return (first ++ more, c)
      else .ok ([], c)

/-- What a stretch of spaces, tabs and line ends becomes. -/
def spaces (fuel : Nat) (c : Cursor) : Except ReadFault (List Char × Cursor) :=
  let (blanks, c) := c.takeWhile fun x => x == ' ' || x == '\t'
  match c.peek? with
  | none => .error .malformed
  | some x =>
    if isBreak x then do
      let (first, c) := c.takeBreak
      let (more, c) ← breaks fuel c
      let joint :=
        if first != ['\n'] then first
        else if more.isEmpty then [' ']
        else []
      return (joint ++ more, c)
    else .ok (blanks, c)

/-- What the escape behind a backslash becomes. -/
def escape (fuel : Nat) (c : Cursor) : Except ReadFault (Text × Cursor) :=
  match c.peek? with
  | none => .error .malformed
  | some x =>
    match escapedChar? x, escapeWidth? x with
    | some y, _ => .ok ([.char y], c.next)
    | none, some width =>
      let digits := (c.rest.drop 1).take width
      if digits.length < width then .error .malformed
      else match Text.hexNumber? digits with
        | none => .error .malformed
        | some n => do
          let y ← pointOfNumber n
          return ([y], c.skip (width + 1))
    | none, none =>
      if isBreak x then do
        let (more, c) ← breaks fuel c.takeBreak.2
        return (Text.ofChars more, c)
      else .error .malformed

/-- Reads the rest of a quoted scalar up to its closing quote. -/
def body (double : Bool) : Nat → Cursor → Except ReadFault (Text × Cursor)
  | 0, _ => .error .malformed
  | fuel + 1, c =>
    let onward (part : Text) (c : Cursor) : Except ReadFault (Text × Cursor) := do
      let (more, c) ← body double fuel c
      return (part ++ more, c)
    match c.rest with
    | [] => .error .malformed
    | x :: rest =>
      if !double && x == '\'' && rest.head? == some '\'' then onward [.char x] (c.skip 2)
      else if x == (if double then '"' else '\'') then .ok ([], c.next)
      else if double && x == '\\' then do
        let (part, c) ← escape fuel c.next
        onward part c
      else if isBlank x then do
        let (part, c) ← spaces fuel c
        onward (Text.ofChars part) c
      else onward [.char x] c.next

/-- Reads the quoted scalar at the cursor. -/
def read (double : Bool) (c : Cursor) : Except ReadFault (Text × Cursor) :=
  body double (c.size + 1) c.next

end ClientScribe.Yaml.Quoted
