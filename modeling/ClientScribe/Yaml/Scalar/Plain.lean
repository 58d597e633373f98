import ClientScribe.Yaml.Cursor

/-!
# Plain scalars

A scalar without quotes runs until a comment, a colon with a blank behind it, or a line that is not
indented enough. Inside brackets it also ends at a comma, a question mark or a bracket.
-/

namespace ClientScribe.Yaml.Plain

/-- The characters that end a plain scalar inside brackets. -/
def isFlowStop (c : Char) : Bool :=
  c == ',' || c == '?' || c == '[' || c == ']' || c == '\x7b' || c == '\x7d'

/-- What makes a colon in front of it end the scalar. -/
def endsKey (flow : Bool) : Option Char → Bool
  | none => true
  | some c => isBlank c || (flow && c != '?' && isFlowStop c)

/-- The length of the stretch without blanks at the start of a text. -/
def stretch (flow : Bool) : List Char → Nat
  | [] => 0
  | c :: rest =>
    if isBlank c || (c == ':' && endsKey flow rest.head?) || (flow && isFlowStop c) then 0
    else stretch flow rest + 1

/-- What stands between two stretches. -/
structure Gap where
  /-- What the gap becomes inside the scalar; nothing, if the scalar ends before it. -/
  text : List Char
  /-- Whether the gap holds a line end. -/
  broken : Bool
  cursor : Cursor

/-- The line ends behind the first one of a gap, unless a mark between documents follows. -/
def laterBreaks : Nat → Cursor → Option (List Char) × Cursor
  | 0, c => (some [], c)
  | fuel + 1, c =>
    match c.peek? with
    | some ' ' => laterBreaks fuel c.next
    | some x =>
      if isBreak x then
        let (first, c) := c.takeBreak
        if c.atDocumentMark then (none, c)
        else
          let (more?, c) := laterBreaks fuel c
          (more?.map (first ++ ·), c)
      else (some [], c)
    | none => (some [], c)

/-- The gap at the cursor. -/
def gap (c : Cursor) : Gap :=
  let (blanks, c) := c.takeWhile (· == ' ')
  if isBreakOrEnd c.peek? && !c.rest.isEmpty then
    let (first, c) := c.takeBreak
    if c.atDocumentMark then ⟨[], true, c⟩
    else
      match laterBreaks (c.size + 1) c with
      | (none, c) => ⟨[], true, c⟩
      | (some more, c) =>
        let joint :=
          if first != ['\n'] then first
          else if more.isEmpty then [' ']
          else []
        ⟨joint ++ more, true, c⟩
  else ⟨blanks, false, c⟩

/-- A plain scalar that has been read. -/
structure Scalar where
  text : List Char
  /-- Whether the scalar ended with a line. -/
  atLineEnd : Bool
  cursor : Cursor

/-- Reads stretches and the gaps between them. The gap before the next stretch is given. -/
def body (flow : Bool) (indent : Int) : Nat → Gap → Scalar
  | 0, g => ⟨[], g.broken, g.cursor⟩
  | fuel + 1, g =>
    let c := g.cursor
    let length := stretch flow c.rest
    if c.peek? == some '#' || length == 0 then ⟨[], g.broken, c⟩
    else
      let here := g.text ++ c.rest.take length
      let following := gap (c.skip length)
      if following.text.isEmpty || following.cursor.peek? == some '#' ||
          (!flow && Int.ofNat following.cursor.column < indent) then
        ⟨here, following.broken, following.cursor⟩
      else
        let more := body flow indent fuel following
        ⟨here ++ more.text, more.atLineEnd, more.cursor⟩

/-- Reads the plain scalar at the cursor, in a collection with the given indent. -/
def read (flow : Bool) (indent : Int) (c : Cursor) : Scalar :=
  body flow (indent + 1) (c.size + 1) ⟨[], false, c⟩

end ClientScribe.Yaml.Plain
