import ClientScribe.Document.Access
import ClientScribe.Identifier.Words
import ClientScribe.Text.Blank
import ClientScribe.Text.Case
import ClientScribe.Text.Digit

/-!
# Identifiers of the client

How the names of an API become names in the client:

* `argumentName` — a parameter as a function argument: its words in camel case, with an underscore
  behind a reserved word (`user-id` becomes `userId`);
* `propertyKey` — a parameter as a key of an object literal, quoted unless it is plain;
* `constantName` — an operation as an upper-case constant (`getPetById` becomes `GET_PET_BY_ID`);
* `optionsTypeName` — the type of an operation's optional parameters;
* `operationName` — an operation without an id of its own, from its method and path;
* `groupName` — the group of an operation, from its first tag.
-/

namespace ClientScribe.Identifier

open Document (Value misfit)

/-- What separates the words of a parameter name. -/
def isSeparator (c : Char) : Bool :=
  "_-!@#$%^&*()".toList.contains c || Text.isBlank c

/-- The words that the client's language keeps for itself. -/
def reservedWords : List Text :=
  ["break", "case", "catch", "class", "const", "continue", "debugger", "default", "delete", "do",
    "else", "export", "extends", "finally", "for", "function", "if", "import", "in", "instanceof",
    "new", "return", "super", "switch", "this", "throw", "try", "typeof", "var", "void", "while",
    "with", "yield"].map Text.ofString

/-- The name itself, or with an underscore behind it if it is a reserved word. -/
def escapeReserved (name : Text) : Text :=
  if reservedWords.contains name then name ++ "_" else name

/-- Words as one: the first as it is, each further one with a capital. -/
def camelCase : List Text → Text
  | [] => []
  | word :: more => word ++ more.flatMap Text.Case.capitalize

/-- The argument that carries a parameter; a name of separators only has none. -/
def argumentName (name : Text) : Result Text :=
  match words (·.satisfies isSeparator) name with
  | [] => .error (.unnameable name)
  | parts => .ok (escapeReserved (camelCase parts))

/-- A letter or digit of ASCII, or one of the four characters whose other case is an ASCII letter
or a near relative of one. -/
def isPlainLetter (c : Char) : Bool :=
  c.isAlphanum || c.toNat == 0x130 || c.toNat == 0x131 || c.toNat == 0x17F || c.toNat == 0x212A

/-- What a plain key and the name of a group consist of. -/
def isPlainKeyChar (c : Char) : Bool :=
  c == '_' || c == '$' || isPlainLetter c

/-- Whether a key needs no quotes: plain characters, at least one, and at most one line break at
the end. -/
def isPlainKey (s : Text) : Bool :=
  let body := if s.getLast? == some (.char '\n') then s.dropLast else s
  !body.isEmpty && body.all (·.satisfies isPlainKeyChar)

/-- The key of a parameter in an object literal. -/
def propertyKey (name : Text) : Text :=
  if isPlainKey name then name else "'" ++ name ++ "'"

/-- What a part of a name in camel case can end with: a small letter or a digit. -/
def endsPart (c : Char) : Bool :=
  c.isLower || Text.isDecimalDigit c

/-- The text with an underscore in every pair of a small letter or a digit and a capital. The pairs
are taken from left to right and share no character: behind a pair the search goes on. -/
def separateCapitals : Text → Text
  | c :: d :: rest =>
    if c.satisfies endsPart && d.satisfies Char.isUpper then
      c :: .char '_' :: d :: separateCapitals rest
    else c :: separateCapitals (d :: rest)
  | rest => rest

/-- The constant that stands for an operation. -/
def constantName (name : Text) : Text :=
  Text.Case.upper (separateCapitals name)

/-- The type of an operation's optional parameters; an empty name has none. -/
def optionsTypeName (operation : Text) : Result Text :=
  if operation.isEmpty then misfit
  else .ok (Text.Case.capitalize operation ++ "Options")

/-- The name of an operation without an id: the method in small letters and the words of the path,
each with a capital. -/
def operationName (method path : Text) : Text :=
  let parts := words (!·.satisfies Char.isAlphanum) path
  Text.Case.lower method ++ parts.flatMap Text.Case.capitalize

/-- The group of operations without a usable tag. -/
def defaultGroup : Text := "default"

/-- A tag as the name of a group: its plain characters from the first that is no digit on. -/
def groupOfTag (tag : Text) : Text :=
  let name := (tag.filter (·.satisfies isPlainKeyChar)).dropWhile (·.satisfies Char.isDigit)
  if name.isEmpty then defaultGroup else name

/-- The group of an operation with the given tags. -/
def groupName (tags : Value) : Result Text :=
  if tags.isTrue then do
    let tag ← (← tags.member 0).asText
    return groupOfTag tag
  else .ok defaultGroup

end ClientScribe.Identifier
