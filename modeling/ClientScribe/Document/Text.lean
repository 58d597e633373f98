import ClientScribe.Document.Value
import ClientScribe.Error

/-!
# The text of a value

A value that is put into a generated line or into a message is written as text. A text stands there
as it is; inside a list or a mapping, or where a message asks for it, it is quoted. A collection
inside itself is only hinted at by dots. Numbers with too many digits have no text, and neither have
values that are nested too deeply.

Main definitions:

* `Unwritable` — why a value has no text;
* `Value.quotedForm` and `Value.wording` — the two forms of a value, or why it has none;
* `Value.quoted` and `Value.text` — the same where the form is needed, so that its lack is a misfit.
-/

namespace ClientScribe.Document

/-- How deeply values may be nested, and how often a definition may follow them inwards. The number
stands for the room that the calls of a run have on their stack. Calls that are open already take
some of it, so the limit of a real run is a little higher or lower, depending on where it is met. -/
def nestingLimit : Nat := 980

/-- The most digits of a whole number with a text. -/
def mostDigits : Nat := 4300

/-- Why a value has no text. -/
inductive Unwritable where
  /-- A whole number in it has too many digits. -/
  | tooLong
  /-- It is nested too deeply. A ring that lacks a member, which no document has, counts as such. -/
  | tooDeep
  deriving DecidableEq

/-- A text that a run needs: the lack of it is a misfit. -/
def needed (form : Except Unwritable Text) : Result Text :=
  form.mapError fun _ => .misfit

/-- One byte inside quotes. -/
def escapedByte (quote : Char) (b : UInt8) : List Char :=
  let c := Char.ofNat b.toNat
  if c == quote || c == '\\' then ['\\', c]
  else if c == '\t' then ['\\', 't']
  else if c == '\n' then ['\\', 'n']
  else if c == '\r' then ['\\', 'r']
  else if 32 ≤ b.toNat && b.toNat < 127 then [c]
  else '\\' :: 'x' :: Text.hexDigits 2 b.toNat

/-- Bytes between quotes behind a `b`. -/
def bytesText (content : List UInt8) : Text :=
  let quote := Text.quoteOf (content.map fun b => .char (Char.ofNat b.toNat))
  Text.ofChars ('b' :: quote :: (content.flatMap (escapedByte quote) ++ [quote]))

/-- A whole number in base ten. -/
def intText (n : Int) : Except Unwritable Text :=
  if n.natAbs < Nat.pow 10 mostDigits then .ok (toString n) else .error .tooLong

namespace Value

/-- The dots that a collection inside itself is written as. -/
def dots : Value → Text
  | map _ => "\x7b...\x7d"
  | tuple _ => "(...)"
  | _ => "[...]"

/-- The entry of a mapping as it is written inside it. -/
def quotedEntry (quote : Value → Except Unwritable Text) (e : Value × Value) :
    Except Unwritable Text := do
  let key ← quote e.1
  let value ← quote e.2
  return key ++ ": " ++ value

/-- The value as it is written inside a collection, its parts being written in a certain way. -/
def quotedBy (quote : Value → Except Unwritable Text) : Value → Except Unwritable Text
  | null => .ok "None"
  | bool b => .ok (if b then "True" else "False")
  | int n => intText n
  | float x => .ok (Decimal.floatText Decimal.plain x)
  | nan _ => .ok Decimal.plain.notANumber
  | str s => .ok (Text.quoted s)
  | list elements => do
    return "[" ++ Text.intercalate ", " (← elements.mapM quote) ++ "]"
  | tuple [part] => do return "(" ++ (← quote part) ++ ",)"
  | tuple parts => do return "(" ++ Text.intercalate ", " (← parts.mapM quote) ++ ")"
  | map entries => do
    return "\x7b" ++ Text.intercalate ", " (← entries.mapM (quotedEntry quote)) ++ "\x7d"
  | set [] => .ok "set()"
  | set keys => do return "\x7b" ++ Text.intercalate ", " (← keys.mapM quote) ++ "\x7d"
  | date d => .ok d.quoted
  | moment m => .ok m.quoted
  | bytes content => .ok (bytesText content)
  | link _ | looped _ _ => .error .tooDeep

/-- The value as it is written inside a collection, inside the members of rings with certain
numbers. -/
def quotedInside : Nat → List Nat → Value → Except Unwritable Text
  | 0, _, _ => .error .tooDeep
  | limit + 1, around, v =>
    match v with
    | looped _ id =>
      if around.contains id then .ok v.view.dots
      else v.view.quotedBy (quotedInside limit (id :: around))
    | v => v.quotedBy (quotedInside limit around)

/-- The value as it is written inside a collection: a text in quotes. -/
def quotedForm (v : Value) : Except Unwritable Text :=
  quotedInside nestingLimit [] v

/-- The value as it is written on its own: a text as it is. -/
def wording : Value → Except Unwritable Text
  | str s => .ok s
  | date d => .ok d.text
  | moment m => .ok m.text
  | v => v.quotedForm

/-- The value as it is written inside a collection, where it is needed. -/
def quoted (v : Value) : Result Text :=
  needed v.quotedForm

/-- The value as it is written on its own, where it is needed. -/
def text (v : Value) : Result Text :=
  needed v.wording

end Value

end ClientScribe.Document
