import ClientScribe.Error
import ClientScribe.Text.Basic

/-!
# Tokens of a YAML text

A YAML text is a row of tokens. The starts and ends of collections that the text shows by
indentation alone are tokens too, as are the keys that only a colon behind them shows.
-/

namespace ClientScribe.Yaml

open Document (ReadFault)

/-- A line at the start of a document that says how to read it. -/
inductive Directive where
  | version (major minor : Nat)
  | tagHandle (handle start : String)
  | other

/-- A token of a YAML text. -/
inductive Token where
  | directive (d : Directive)
  | documentStart
  | documentEnd
  | blockSequenceStart
  | blockMappingStart
  | blockEnd
  | flowSequenceStart
  | flowSequenceEnd
  | flowMappingStart
  | flowMappingEnd
  | flowEntry
  | blockEntry
  | key
  | value
  | alias (name : String)
  | anchor (name : String)
  /-- A tag, with its handle if it has one. -/
  | tag (handle : Option String) (suffix : String)
  | scalar (text : Text) (plain : Bool)
  /-- What is no token. None comes behind it. -/
  | fault (f : ReadFault)

end ClientScribe.Yaml
