import ClientScribe.Error

/-!
# A place in a YAML text

YAML gives meaning to lines and columns, so the reader of a text moves a cursor that knows both.
-/

namespace ClientScribe.Yaml

/-- The mark that may stand at the very start of a text. -/
def byteOrderMark : Char := Char.ofNat 0xFEFF

/-- The characters that end a line. -/
def isBreak (c : Char) : Bool :=
  c == '\n' || c == '\r' || c.toNat == 0x85 || c.toNat == 0x2028 || c.toNat == 0x2029

/-- The characters that end a line, and the end of the text. -/
def isBreakOrEnd : Option Char → Bool
  | none => true
  | some c => isBreak c

/-- Space, tab, or the end of a line. -/
def isBlank (c : Char) : Bool :=
  c == ' ' || c == '\t' || isBreak c

/-- Space, tab, the end of a line, or the end of the text. -/
def isBlankOrEnd : Option Char → Bool
  | none => true
  | some c => isBlank c

/-- Space, the end of a line, or the end of the text. -/
def isSpaceOrEnd : Option Char → Bool
  | none => true
  | some c => c == ' ' || isBreak c

/-- The rest of a text, and where it starts. -/
structure Cursor where
  rest : List Char
  /-- The number of characters of the whole text, which bounds how often the cursor can move on. -/
  size : Nat
  /-- The number of characters before. -/
  index : Nat
  /-- The number of line ends before. -/
  line : Nat
  /-- The number of characters before on the same line. -/
  column : Nat

namespace Cursor

/-- The start of a text. -/
def start (s : List Char) : Cursor := ⟨s, s.length, 0, 0, 0⟩

/-- The next character. -/
def peek? (c : Cursor) : Option Char := c.rest.head?

/-- The character after the next one. -/
def second? (c : Cursor) : Option Char := (c.rest.drop 1).head?

/-- One character further. A carriage return in front of a line feed does not end the line, and the
byte order mark takes no column. -/
def next (c : Cursor) : Cursor :=
  match c.rest with
  | [] => c
  | x :: rest =>
    let c := { c with rest, index := c.index + 1 }
    if isBreak x && !(x == '\r' && rest.head? == some '\n') then
      { c with line := c.line + 1, column := 0 }
    else if x == byteOrderMark then c
    else { c with column := c.column + 1 }

/-- So many characters further. -/
def skip : Nat → Cursor → Cursor
  | 0, c => c
  | n + 1, c => skip n c.next

/-- The characters of a class in front of the cursor. -/
def takeWhile (p : Char → Bool) (c : Cursor) : List Char × Cursor :=
  let taken := c.rest.takeWhile p
  (taken, c.skip taken.length)

/-- The cursor behind the characters of a class. -/
def skipWhile (p : Char → Bool) (c : Cursor) : Cursor :=
  (c.takeWhile p).2

/-- The cursor behind spaces. -/
def skipSpaces (c : Cursor) : Cursor :=
  c.skipWhile (· == ' ')

/-- The cursor at the end of its line if a comment starts here. -/
def skipComment (c : Cursor) : Cursor :=
  if c.peek? == some '#' then c.skipWhile (!isBreak ·) else c

/-- One line end, if the cursor is at one: the characters it stands for. The two separators of
lines and paragraphs stand for themselves, all other line ends for a line feed. -/
def takeBreak (c : Cursor) : List Char × Cursor :=
  match c.rest with
  | '\r' :: '\n' :: _ => (['\n'], c.skip 2)
  | x :: _ =>
    if x.toNat == 0x2028 || x.toNat == 0x2029 then ([x], c.next)
    else if isBreak x then (['\n'], c.next)
    else ([], c)
  | [] => ([], c)

/-- Whether the text goes on with three equal marks and a blank behind them. -/
def atMarks (mark : Char) (c : Cursor) : Bool :=
  match c.rest with
  | x :: y :: z :: rest => x == mark && y == mark && z == mark && isBlankOrEnd rest.head?
  | _ => false

/-- Whether the text goes on with a mark between documents. -/
def atDocumentMark (c : Cursor) : Bool :=
  c.atMarks '-' || c.atMarks '.'

end Cursor

end ClientScribe.Yaml
