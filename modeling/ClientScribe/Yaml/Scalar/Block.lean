import ClientScribe.Text.Basic
import ClientScribe.Yaml.Cursor

/-!
# Block scalars

A block scalar holds the following lines that are indented far enough. A literal one keeps its line
ends, a folded one turns a single line end between two lines without indentation of their own into
a space. Its header may fix the indentation and say what becomes of the line ends behind the last
line.
-/

namespace ClientScribe.Yaml.Block

open Document (ReadFault)

/-- What becomes of the line ends behind the last line. -/
inductive Chomping where
  /-- One stays. -/
  | clip
  /-- All stay. -/
  | keep
  /-- None stays. -/
  | strip
  deriving DecidableEq

/-- The header of a block scalar. -/
structure Header where
  chomping : Chomping
  /-- The indentation, if the header fixes it. -/
  increment : Option Nat

/-- The chomping mark at the cursor, if there is one. -/
def takeChomping (c : Cursor) : Option Chomping × Cursor :=
  match c.peek? with
  | some '+' => (some .keep, c.next)
  | some '-' => (some .strip, c.next)
  | _ => (none, c)

/-- The indentation digit at the cursor, if there is one; zero is none. -/
def takeIncrement (c : Cursor) : Except ReadFault (Option Nat × Cursor) :=
  match c.peek? with
  | some x =>
    if x == '0' then .error .malformed
    else if x.isDigit then .ok (some (x.toNat - 48), c.next)
    else .ok (none, c)
  | none => .ok (none, c)

/-- Reads the header behind its first character, with the rest of its line. -/
def header (c : Cursor) : Except ReadFault (Header × Cursor) := do
  let (first?, c) := takeChomping c
  let (increment, c) ← takeIncrement c
  let (chomping?, c) :=
    match first? with
    | some chomping => (some chomping, c)
    | none => if increment.isSome then takeChomping c else (none, c)
  if !isSpaceOrEnd c.peek? then .error .malformed
  else
    let c := c.skipSpaces.skipComment
    if !isBreakOrEnd c.peek? then .error .malformed
    else return (⟨chomping?.getD .clip, increment⟩, c.takeBreak.2)

/-- The line ends in front of the first line with text, and the widest indentation on the way. -/
def leading (widest : Nat) : Nat → Cursor → List Char × Nat × Cursor
  | 0, c => ([], widest, c)
  | fuel + 1, c =>
    match c.peek? with
    | some ' ' => leading (max widest c.next.column) fuel c.next
    | some x =>
      if isBreak x then
        let (first, c) := c.takeBreak
        let (more, widest, c) := leading widest fuel c
        (first ++ more, widest, c)
      else ([], widest, c)
    | none => ([], widest, c)

/-- The cursor behind spaces, up to a column. -/
def skipIndent (indent : Nat) (c : Cursor) : Cursor :=
  c.skip (min (indent - c.column) (c.rest.takeWhile (· == ' ')).length)

/-- The line ends in front of the next line with text in the block. -/
def breaks (indent : Nat) : Nat → Cursor → List Char × Cursor
  | 0, c => ([], c)
  | fuel + 1, c =>
    let c := skipIndent indent c
    if isBreakOrEnd c.peek? && !c.rest.isEmpty then
      let (first, c) := c.takeBreak
      let (more, c) := breaks indent fuel c
      (first ++ more, c)
    else ([], c)

/-- Whether a line starts with space or tab. -/
def startsBlank (c : Cursor) : Bool :=
  c.peek? == some ' ' || c.peek? == some '\t'

/-- The lines of the block, the line end behind the last one, and the line ends behind that. The
line ends in front of the next line are given. -/
def lines (folded : Bool) (indent : Nat) (before : List Char) :
    Nat → Cursor → List Char × List Char × List Char × Cursor
  | 0, c => ([], [], before, c)
  | fuel + 1, c =>
    if c.column != indent || c.rest.isEmpty then ([], [], before, c)
    else
      let outer := !startsBlank c
      let (line, c) := c.takeWhile (!isBreak ·)
      let (ending, c) := c.takeBreak
      let (more, c) := breaks indent (c.size + 1) c
      if c.column == indent && !c.rest.isEmpty then
        let joint :=
          if folded && ending == ['\n'] && outer && !startsBlank c then
            if more.isEmpty then [' '] else []
          else ending
        let (text, last, tail, c) := lines folded indent more fuel c
        (before ++ line ++ joint ++ text, last, tail, c)
      else (before ++ line, ending, more, c)

/-- Reads the block scalar at the cursor, in a collection with the given indent. -/
def read (folded : Bool) (indent : Int) (c : Cursor) : Except ReadFault (Text × Cursor) := do
  let (h, c) ← header c.next
  let least := max (indent + 1) 1
  let fuel := c.size + 1
  let (before, width, c) :=
    match h.increment with
    | none =>
      let (before, widest, c) := leading 0 fuel c
      (before, (max least (Int.ofNat widest)).toNat, c)
    | some increment =>
      let width := (least + Int.ofNat increment - 1).toNat
      let (before, c) := breaks width fuel c
      (before, width, c)
  let (text, last, tail, c) := lines folded width before fuel c
  let ending :=
    match h.chomping with
    | .clip => last
    | .keep => last ++ tail
    | .strip => []
  return (Text.ofChars (text ++ ending), c)

end ClientScribe.Yaml.Block
