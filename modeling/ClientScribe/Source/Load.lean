import ClientScribe.Json.Reader
import ClientScribe.Source.ContentType
import ClientScribe.Source.Url
import ClientScribe.Store.Basic
import ClientScribe.Yaml.Reader

/-!
# Loading documents

A document comes from a file or from an address. Its name says how it is written: names that end in
`.yaml` or `.yml` are YAML, all others JSON. A document is a mapping.
-/

namespace ClientScribe.Source

open Document (ReadFault Value misfit)
open Store (Path)

/-- How deeply the values of a document in JSON may be nested. Like `Document.nestingLimit`, the
number stands for the room on the stack, of which the calls around take some. -/
def jsonDepth : Nat := 980

/-- How deeply the values of a document in YAML may be nested. The number stands for the room on the
stack, too; a level takes twice as much of it here. -/
def yamlDepth : Nat := 490

/-- Whether a document with a name is written in YAML. Only ASCII letters have these small forms. -/
def isYamlName (name : Text) : Bool :=
  let s := (name.map (·.mapChar Char.toLower)).reverse
  (Text.ofString ".yaml").reverse.isPrefixOf s || (Text.ofString ".yml").reverse.isPrefixOf s

/-- The value that a text writes. A text in YAML holds no half of a pair. -/
def valueOf (contents name : Text) : Except ReadFault Value :=
  if isYamlName name then
    match contents.chars? with
    | some s => Yaml.read yamlDepth s
    | none => .error .malformed
  else Json.read jsonDepth contents

/-- The document of a text. -/
def parse (contents name : Text) : Result Value :=
  match valueOf contents name with
  | .error .malformed => .error (.unparsable name)
  | .error .impossible => misfit
  | .ok v => if v.isMap then .ok v else .error (.notMapping name)

/-- The text with every line end written as a line feed. -/
def normalizeBreaks : List Char → List Char
  | [] => []
  | '\r' :: '\n' :: rest => '\n' :: normalizeBreaks rest
  | '\r' :: rest => '\n' :: normalizeBreaks rest
  | c :: rest => c :: normalizeBreaks rest

/-- The text of a file's contents, which must be UTF-8. -/
def fileText (contents : ByteArray) : Result Text :=
  match String.fromUTF8? contents with
  | some text => .ok (Text.ofChars (normalizeBreaks text.toList))
  | none => misfit

/-- The document of a file. -/
def loadFile (store : Store) (source : Text) : Result Value :=
  let path := Path.ofText source
  match store.read? path with
  | .ok contents => do parse (← fileText contents) path.name
  | .error .unusable => misfit
  | .error fault =>
    .error (.unreadable source (fault.text ++ ": " ++ Text.quoted path.text))

/-- What came back from an address. -/
inductive Response where
  /-- Nothing: the request failed for a reason. -/
  | failure (cause : Text)
  | answer (status : Int) (contentType : Option Text) (body : ByteArray)

/-- The document that an address gave. -/
def loadResponse (source : Text) : Response → Result Value
  | .failure cause => .error (.unfetched source cause)
  | .answer status contentType body =>
    if 200 ≤ status && status < 300 then
      match (Charset.ofContentType contentType).decode? body.toList with
      | some text => do
        let url ← Url.ofText source
        parse text (if url.path.isEmpty then source else url.path)
      | none => misfit
    else .error (.refused source)

/-- The document of a source; `fetch` gives what comes back from an address. -/
def load (store : Store) (fetch : Text → Response) (source : Text) : Result Value :=
  if isUrl source then loadResponse source (fetch source) else loadFile store source

end ClientScribe.Source
