import ClientScribe.Text.Quoted

/-!
# Errors

Everything that ends a run early, by cause. The wording of each cause is in `Error.message`; callers
that only care about the sort of problem ask for `Error.kind`. A text that is not a document has a
fault, which the reader of a source makes an error of.
-/

namespace ClientScribe

/-- The sorts of problems. -/
inductive ErrorKind where
  /-- The options are not among those offered. -/
  | config
  /-- The document cannot be read. -/
  | load
  /-- A reference cannot be followed. -/
  | reference
  /-- A schema or a parameter has a shape that no client code expresses. -/
  | schema
  /-- A value is of a kind that cannot be used where it stands. -/
  | misfit
  deriving DecidableEq

/-- What ends a run early. -/
inductive Error where
  | unknownLanguage (given : Text)
  | unknownIndent (given : Text)
  /-- The document at an address could not be asked for. -/
  | unfetched (source cause : Text)
  /-- The document at an address was refused. -/
  | refused (source : Text)
  | unreadable (source cause : Text)
  | unparsable (name : Text)
  | notMapping (name : Text)
  | unsupportedReference (reference : Text)
  | circularReference (reference : Text)
  | danglingReference (reference : Text)
  /-- Nothing of a parameter's name can stand in an identifier. -/
  | unnameable (name : Text)
  | arrayWithoutItems
  | inheritanceNotPair (name : Text)
  | inheritanceWithoutParent (name : Text)
  | parameterWithoutName (parameter : Text)
  | arrayParameterWithoutFormat (name : Text)
  /-- A value was used in a way that its kind does not allow, or a needed field is absent. -/
  | misfit

/-- The start of every reference that can be followed. -/
def schemaReferenceStart : Text := "#/components/schemas/"

/-- The languages that a client can be written in. -/
def languages : List Text := ["ts", "js"]

/-- The names of the indentation units. -/
def indents : List Text := ["2", "4", "tab"]

namespace Error

/-- The sort of a problem. -/
def kind : Error → ErrorKind
  | unknownLanguage _ | unknownIndent _ => .config
  | unfetched _ _ | refused _ | unreadable _ _ | unparsable _ | notMapping _ => .load
  | unsupportedReference _ | circularReference _ | danglingReference _ => .reference
  | unnameable _ | arrayWithoutItems | inheritanceNotPair _ | inheritanceWithoutParent _
  | parameterWithoutName _ | arrayParameterWithoutFormat _ => .schema
  | misfit => .misfit

/-- The wording of a problem; a misfit has none. -/
def message : Error → Text
  | unknownLanguage given =>
    "Unknown language " ++ given ++ ", expected one of " ++ Text.intercalate ", " languages
  | unknownIndent given =>
    "Unknown indent " ++ given ++ ", expected one of " ++ Text.intercalate ", " indents
  | unfetched source cause => "Unable to fetch spec at '" ++ source ++ "': " ++ cause
  | refused source => "Unable to fetch spec at '" ++ source ++ "'"
  | unreadable source cause => "Unable to read spec at '" ++ source ++ "': " ++ cause
  | unparsable name => "Unable to parse spec at '" ++ name ++ "'"
  | notMapping name => "Spec at '" ++ name ++ "' is not a mapping"
  | unsupportedReference reference =>
    "Can't follow $ref '" ++ reference ++ "', only " ++ schemaReferenceStart ++ " is supported"
  | circularReference reference => "Circular $ref chain through '" ++ reference ++ "'"
  | danglingReference reference => "Invalid schema reference: " ++ reference
  | unnameable name => "Parameter name " ++ Text.quoted name ++ " has no identifier characters"
  | arrayWithoutItems => "Array schema must declare its items"
  | inheritanceNotPair name =>
    "Json schema allOf '" ++ name ++
      "' must have two elements to be treated as inheritance"
  | inheritanceWithoutParent name =>
    "Json schema allOf '" ++ name ++ "' first element must be a $ref"
  | parameterWithoutName parameter => "Parameter " ++ parameter ++ " has no name"
  | arrayParameterWithoutFormat name =>
    "param " ++ name ++ " must specify an array collectionFormat"
  | misfit => ""

end Error

/-- A result, or the error that ended the run. -/
abbrev Result := Except Error

namespace Document

/-- Why a text could not be read as a document. -/
inductive ReadFault where
  /-- The text is not written in the format. -/
  | malformed
  /-- The text is written in the format but names a number, a character or a day that there is
  not. -/
  | impossible
  deriving DecidableEq

/-- The end of a run by a misfit. -/
def misfit {α : Type} : Result α := .error .misfit

end Document

end ClientScribe
