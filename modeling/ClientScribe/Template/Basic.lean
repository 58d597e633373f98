import ClientScribe.Document.Access

/-!
# Templates

A file of the client is written from a template: a row of parts that are fixed text, or take what
they write from a view. Views are values, and what a part asks for has to be there: a part that
writes, tests or repeats something absent is a misfit.

Templates are written with two spaces for a step of indentation. A run may ask for another unit;
then every line's steps are written with that. A line starts behind a line feed, and a single space
that is left over stays.

Main definitions:

* `Expr` — what a part can ask of a view;
* `Part` — the parts of a template; repetitions bind a name, and within them a part can ask whether
  this is the last turn;
* `render` — the text of a template for a view;
* `reindent` — a text with another unit of indentation.
-/

namespace ClientScribe.Template

open Document (Value Entries lookup misfit)

/-- What a part asks of a view. -/
inductive Expr where
  /-- What a name is bound to. -/
  | name (name : Text)
  | field (of : Expr) (name : Text)
  /-- Whether this is the last turn of a repetition. -/
  | last
  | not (e : Expr)
  /-- The second one is asked only if the first one counts as true. -/
  | and (a b : Expr)
  /-- The second one is asked only if the first one does not count as true. -/
  | or (a b : Expr)
  /-- Whether the value is a text. -/
  | is (e : Expr) (text : Text)

/-- A part of a template. -/
inductive Part where
  | text (s : Text)
  /-- Writes a value. -/
  | value (e : Expr)
  /-- Writes the members of a value with a text between them. -/
  | joined (e : Expr) (separator : Text)
  /-- Writes one row of parts if a condition holds, another one if not. -/
  | choice (condition : Expr) (yes no : List Part)
  /-- Writes parts for every member of a value for which a condition holds. -/
  | each (name : Text) (of : Expr) (condition : Option Expr) (body : List Part)

/-- What the parts of a template can ask for. -/
structure Scope where
  /-- Names with what they are bound to, innermost first. -/
  bindings : List (Text × Value)
  /-- Whether this is the last turn, inside a repetition. -/
  isLast : Option Bool

/-- The scope with one more name. -/
def Scope.bind (s : Scope) (name : Text) (v : Value) (isLast : Bool) : Scope :=
  ⟨(name, v) :: s.bindings, some isLast⟩

/-- The value of an expression, nothing if it is absent. A field of something absent is a misfit. -/
def Expr.eval (s : Scope) : Expr → Result (Option Value)
  | name n => .ok (s.bindings.lookup n)
  | field e n => do
    match (← e.eval s).map Value.view with
    | some (.map entries) => return lookup n entries
    | some _ => return none
    | none => misfit
  | last => .ok (s.isLast.map .bool)
  | not e => do
    match ← e.eval s with
    | some v => return some (.bool !v.isTrue)
    | none => misfit
  | and a b => do
    match ← a.eval s with
    | some v => if v.isTrue then b.eval s else return some v
    | none => misfit
  | or a b => do
    match ← a.eval s with
    | some v => if v.isTrue then return some v else b.eval s
    | none => misfit
  | is e text => do
    match ← e.eval s with
    | some v => return some (.bool (v.isText text))
    | none => misfit

/-- The value of an expression that has to be there. -/
def Expr.demand (s : Scope) (e : Expr) : Result Value := do
  match ← e.eval s with
  | some v => return v
  | none => misfit

/-- Whether a condition holds. -/
def Expr.holds (s : Scope) (e : Expr) : Result Bool := do
  return (← e.demand s).isTrue

/-- Members, each with whether it is the last one. -/
def turns : List Value → List (Value × Bool)
  | [] => []
  | v :: rest => (v, rest.isEmpty) :: turns rest

mutual

/-- The text of a part. -/
def renderPart (s : Scope) : Part → Result Text
  | .text t => .ok t
  | .value e => do (← e.demand s).text
  | .joined e separator => do
    return Text.intercalate separator (← (← (← e.demand s).members).mapM Value.text)
  | .choice condition yes no => do
    if ← condition.holds s then renderParts s yes else renderParts s no
  | .each name e condition body => do
    let members ← (← e.demand s).members
    let chosen ←
      match condition with
      | none => pure members
      | some condition => members.filterM fun v => condition.holds (s.bind name v false)
    let texts ← (turns chosen).mapM fun (v, isLast) => renderParts (s.bind name v isLast) body
    return texts.flatten

/-- The text of a row of parts. -/
def renderParts (s : Scope) : List Part → Result Text
  | [] => .ok []
  | p :: rest => do
    let here ← renderPart s p
    return here ++ (← renderParts s rest)

end

/-- The scope of a view: its fields by name. -/
def scopeOf (view : Value) : Result Scope := do
  let bindings := (← view.entries).filterMap fun (k, v) =>
    match k with
    | .str name => some (name, v)
    | _ => none
  return ⟨bindings, none⟩

/-- The text of a template for a view. -/
def render (parts : List Part) (view : Value) : Result Text := do
  renderParts (← scopeOf view) parts

/-! ### Indentation -/

/-- One step of indentation in a template. -/
def step : Text := "  "

/-- The text with the steps at the start of every line written with another unit. `atStart` says
that only steps have come on the line so far. -/
def indentFrom (unit : Text) (atStart : Bool) : Text → Text
  | [] => []
  | .char ' ' :: .char ' ' :: rest =>
    if atStart then unit ++ indentFrom unit true rest
    else step ++ indentFrom unit false rest
  | c :: rest => c :: indentFrom unit (c == .char '\n') rest

/-- The text with every line indented by steps of another unit. -/
def reindent (text unit : Text) : Text :=
  if unit == step then text else indentFrom unit true text

/-! ### Building templates -/

/-- A line of fixed text. -/
def line (s : Text) : Part := .text (s ++ "\n")

/-- The value of a name. -/
def var (name : Text) : Expr := .name name

/-- A field of what a name is bound to. -/
def dot (name field : Text) : Expr := .field (.name name) field

/-- Writes parts if a condition holds. -/
def optional (condition : Expr) (parts : List Part) : Part := .choice condition parts []

/-- The end of a statement and of its line. -/
def statementEnd : List Part := [.value (var "st"), .text "\n"]

/-- A line that ends a statement. -/
def statement (s : Text) : List Part := .text s :: statementEnd

/-- Repeats parts for every member of a value. -/
def forEach (name : Text) (e : Expr) (body : List Part) : Part := .each name e none body

end ClientScribe.Template
