import ClientScribe.Document.Access
import ClientScribe.Store.Path

/-!
# Options of a run

How a client is written: into which directory, in which language, with which indentation unit and
statement end, and whether with actions. The options come as values of a document; they are checked
in order, the language first.
-/

namespace ClientScribe

open Document (Value misfit)
open Store (Path)

/-- The languages of a client. -/
inductive Language where
  /-- With types. -/
  | ts
  /-- Without types. -/
  | js
  deriving DecidableEq

/-- The name of a language, which is also the extension of its files. -/
def Language.name : Language → Text
  | ts => "ts"
  | js => "js"

/-- The units of indentation. -/
inductive Indent where
  | two
  | four
  | tab
  deriving DecidableEq

/-- The name of a unit. -/
def Indent.name : Indent → Text
  | two => "2"
  | four => "4"
  | tab => "tab"

/-- The unit itself. -/
def Indent.unit : Indent → Text
  | two => "  "
  | four => "    "
  | tab => "\t"

/-- The options of a run. -/
structure Options where
  outDir : Path
  language : Language
  /-- Whether actions are written too, as it was given. -/
  redux : Value
  indent : Indent
  /-- Whether statements end with a semicolon, as it was given. -/
  semicolon : Value

namespace Options

/-- The language with a name. -/
def language? (v : Value) : Option Language :=
  if v.isText "ts" then some .ts else if v.isText "js" then some .js else none

/-- The unit with a name; the name may also be written as a number. -/
def indent? (v : Value) : Result (Option Indent) := do
  let name ← v.text
  return [Indent.two, .four, .tab].find? (·.name == name)

/-- The options that values stand for. -/
def make (outDir language redux indent semicolon : Value) : Result Options := do
  match language? language with
  | none => .error (.unknownLanguage (← language.quoted))
  | some language =>
    match ← indent? indent with
    | none => .error (.unknownIndent (← indent.quoted))
    | some indent =>
      let outDir ← outDir.asText
      return ⟨.ofText outDir, language, redux, indent, semicolon⟩

/-- The options of a run that only names its directory. -/
def usual (outDir : Text) : Options :=
  ⟨.ofText outDir, .ts, .bool false, .two, .bool false⟩

/-- Whether the client has types. -/
def typed (o : Options) : Bool := o.language == .ts

/-- The extension of the client's files. -/
def extension (o : Options) : Text := o.language.name

/-- The end of a statement. -/
def statementEnd (o : Options) : Text :=
  if o.semicolon.isTrue then ";" else ""

end Options

end ClientScribe
