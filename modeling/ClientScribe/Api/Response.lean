import ClientScribe.Decimal.Reading
import ClientScribe.Document.Access

/-!
# Responses of an operation

An operation lists responses by status code. The best one has the lowest code that is a number; if
no code is, the first response is taken.
-/

namespace ClientScribe.Api

open Document (Value misfit)

/-- The number of a status code, if it is one. A float counts without its fraction. -/
def codeNumber (code : Value) : Result (Option Int) :=
  match code with
  | .str s => .ok (s.chars?.bind (Decimal.integer? 10))
  | .bytes content => .ok (Decimal.integer? 10 (content.map fun b => Char.ofNat b.toNat))
  | .nan _ => .ok none
  | .float x =>
    match Decimal.Binary.ofFloat x with
    | .notANumber => .ok none
    | .infinite _ => misfit
    | parts => .ok parts.truncate?
  | code =>
    match code.whole? with
    | some n => .ok (some n)
    | none => misfit

/-- The response with the lowest number so far, and its number. -/
abbrev Best := Option (Value × Int)

/-- The better one of the best response so far and the next. -/
def better (best : Best) (response : Value) : Result Best := do
  match ← codeNumber (← response.demand "code") with
  | none => return best
  | some n =>
    match best with
    | none => return some (response, n)
    | some (_, least) => return if n < least then some (response, n) else best

/-- The best one of a list of responses. -/
def bestOf (responses : List Value) : Result (Option Value) := do
  match ← responses.foldlM better none with
  | some (response, _) => return some response
  | none => return responses.head?

/-- The best response of a record that has responses. -/
def bestResponse (record : Value) : Result (Option Value) := do
  bestOf (← ((← record.field "responses").orElse (.list [])).members)

end ClientScribe.Api
