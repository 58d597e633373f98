import ClientScribe.Yaml.Scalar.Timestamp
import ClientScribe.Yaml.Tag

/-!
# The tag of a plain scalar

A plain scalar that no tag precedes stands for what it looks like; the first shape that fits counts,
and what fits none is a text. A line end behind a scalar does not change its looks.
-/

namespace ClientScribe.Yaml.Shape

/-- Whether a text is a timestamp: a day with two digits for month and day, or any day with a time
of day. -/
def isTimestamp (s : List Char) : Bool :=
  isDay s ||
    match Timestamp.read? s with
    | some (.inr _) => true
    | _ => false

/-- What a text without a line end at its end stands for; the marks of tags, anchors and aliases
stand for nothing. -/
def tagOfLine (text : String) : Tag :=
  let s := text.toList
  if boolWords.contains text then .bool
  else if isFloat s then .float
  else if isInt s then .int
  else if text == "<<" then .merge
  else if ["", "~", "null", "Null", "NULL"].contains text then .null
  else if isTimestamp s then .timestamp
  else if text == "=" then .value
  else if ["!", "&", "*"].contains text then .unknown
  else .str

/-- What a plain scalar stands for. -/
def tag (text : Text) : Tag :=
  match text.chars? with
  | none => .str
  | some ['\n'] => .str
  | some s => tagOfLine (String.ofList (Timestamp.withoutFinalBreak s))

end ClientScribe.Yaml.Shape
