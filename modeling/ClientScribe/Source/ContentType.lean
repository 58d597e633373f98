import ClientScribe.Source.Charset
import ClientScribe.Text.Blank

/-!
# Content types

A content type is a list of parts between semicolons; a part may give a parameter a value. A
semicolon in quotes ends no part. The parameter `charset` names the encoding of the text.
-/

namespace ClientScribe.Source

/-- Puts a text in front of the first part. -/
def extendFirst (front : Text) : List Text → List Text
  | part :: more => (front ++ part) :: more
  | [] => [front]

/-- The parts of a content type between semicolons; `quoted` inside quotes. -/
def contentParts (quoted : Bool) : Text → List Text
  | [] => [[]]
  | .char '\\' :: .char '"' :: rest => extendFirst ['\\', '"'] (contentParts quoted rest)
  | c :: rest =>
    if c == .char ';' && !quoted then [] :: contentParts false rest
    else extendFirst [c] (contentParts (if c == .char '"' then !quoted else quoted) rest)

/-- The value that a content type gives to the parameter `charset`. -/
def charsetName? (contentType : Text) : Option Text :=
  (contentParts false contentType).findSome? fun part =>
    let name := (Text.strip (part.takeWhile (· != .char '='))).map (·.mapChar Char.toLower)
    if name == "charset" then some ((part.dropWhile (· != .char '=')).drop 1) else none

/-- The encoding of a fetched text: the one its content type names if that is known, else UTF-8. -/
def Charset.ofContentType (contentType : Option Text) : Charset :=
  ((contentType.bind charsetName?).bind Charset.ofName?).getD .utf8

end ClientScribe.Source
