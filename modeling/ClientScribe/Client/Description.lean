import ClientScribe.Document.Access
import ClientScribe.Text.Blank

/-!
# Descriptions in comments

A description stands in a block comment whose lines start with an asterisk. The blanks at its ends
are cut off, and its further lines start like all lines of the comment, a little further in.
-/

namespace ClientScribe.Client

open Document (Value)

/-- The unit in which the files of the client are indented at first. -/
def indentUnit : Text := "  "

/-- The start of a line of a comment. -/
def commentLine : Text := " * "

/-- The start of a line of a comment inside a declaration. -/
def memberCommentLine : Text := indentUnit ++ commentLine

/-- A text with something put behind every line end. -/
def continueLines (start s : Text) : Text :=
  s.flatMap fun c => if c == .char '\n' then c :: start else [c]

/-- A description as it stands in a comment whose lines start in a certain way. -/
def describe (description : Value) (start : Text) : Result Text := do
  let text ← (description.orElse (.str [])).asText
  return continueLines (start ++ indentUnit) (Text.strip text)

end ClientScribe.Client
