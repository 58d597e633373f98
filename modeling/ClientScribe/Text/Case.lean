import ClientScribe.Text.Basic
import ClientScribe.Text.Case.Table

/-!
# Upper and lower case

Case mappings of whole texts over the full character database: one character may become several
(`ß` becomes `SS`), and the lower case of a capital sigma depends on its neighbours.
-/

namespace ClientScribe.Text.Case

/-- The run that covers a character, and where it moves it. -/
def moved? (runs : Array CaseRun) (c : Char) : Option Char :=
  (runs.find? (·.covers c.toNat)).map (·.move c.toNat)

/-- The upper case of one character. -/
def upperChar (c : Char) : List Char :=
  if c.toNat < 128 then [c.toUpper]
  else match upperExpansions.find? (·.1 == c.toNat) with
    | some (_, expansion) => expansion.map Char.ofNat
    | none => [(moved? upperRuns c).getD c]

/-- The upper case of one code point; a half has no case. -/
def upperPoint : CodePoint → Text
  | .char c => Text.ofChars (upperChar c)
  | .half n => [.half n]

/-- The upper case of a text, character by character. -/
def upper (s : Text) : Text :=
  s.flatMap upperPoint

/-- The text with its first character in upper case. -/
def capitalize : Text → Text
  | [] => []
  | c :: rest => upperPoint c ++ rest

/-- Whether the sigma rule looks through the character. -/
def isTransparent (c : Char) : Bool :=
  inRanges transparentRanges c.toNat

/-- Whether the character has a case and the sigma rule sees it. -/
def isCased (c : Char) : Bool :=
  c.isAlpha || inRanges casedRanges c.toNat

/-- Whether the first character that the sigma rule sees is cased. -/
def startsCased (s : Text) : Bool :=
  match s.dropWhile (·.satisfies isTransparent) with
  | [] => false
  | c :: _ => c.satisfies isCased

/-- The lower case of one character, except that a capital sigma always becomes the inner form. -/
def lowerChar (c : Char) : List Char :=
  if c.toNat < 128 then [c.toLower]
  else if c.toNat == 0x130 then ['i', Char.ofNat 0x307]
  else [(moved? lowerRuns c).getD c]

/-- The lower case of a text whose preceding characters, last first, are given: a capital sigma
becomes the final form after a cased character and not before one. -/
def lowerAfter (before : Text) : Text → Text
  | [] => []
  | .half n :: rest => .half n :: lowerAfter (.half n :: before) rest
  | .char c :: rest =>
    let here :=
      if c.toNat == 0x3A3 then
        if startsCased before && !startsCased rest then [Char.ofNat 0x3C2]
        else [Char.ofNat 0x3C3]
      else lowerChar c
    Text.ofChars here ++ lowerAfter (.char c :: before) rest

/-- The lower case of a text. -/
def lower (s : Text) : Text :=
  lowerAfter [] s

end ClientScribe.Text.Case
