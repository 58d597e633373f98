import ClientScribe.Client.OperationView

/-!
# Actions

An action announces the start of an operation, calls it, and announces its end. It takes the
arguments of the operation's function and one more with information for whoever listens.
-/

namespace ClientScribe.Client

open Api (Operation)
open Document (Value record)

/-- The parts of an action that are written. -/
structure ActionView where
  id : Value
  start : Text
  complete : Text
  signature : Text
  callArguments : Text
  returnType : Value

/-- The argument with information, behind the others. -/
def withInfo (signature : Text) (typed : Bool) : Text :=
  let info : Text := if typed then "info?: any" else "info"
  if signature.isEmpty then info else signature ++ ", " ++ info

/-- What is written of an operation's action, in the file of a group. -/
def actionView (document : Value) (group : Text) (op : Operation) (options : Options) :
    Result ActionView := do
  let signature ← signature document op options (group ++ ".")
  let callArguments ← callArguments document op
  let constant := Identifier.constantName (← op.id.asText)
  let returnType ← returnTypeOf op
  return {
    id := op.id
    start := constant ++ "_START"
    complete := constant
    signature := withInfo signature options.typed
    callArguments := Text.intercalate ", " callArguments
    returnType }

/-- All that goes into the file of a group's actions. -/
structure ActionsView where
  group : Text
  typed : Bool
  hasTypes : Bool
  statementEnd : Text
  actions : List ActionView

/-- What goes into the file of the actions of a group of operations. -/
def actionsView (document : Value) (group : Text) (ops : List Operation) (options : Options) :
    Result ActionsView := do
  let hasTypes ← hasSchemas document
  let actions ← ops.mapM fun op => actionView document group op options
  return ⟨group, options.typed, hasTypes, options.statementEnd, actions⟩

/-- The parts of an action as a value. -/
def ActionView.toValue (v : ActionView) : Value :=
  record [("id", v.id), ("start", .str v.start), ("complete", .str v.complete),
    ("signature", .str v.signature), ("call_args", .str v.callArguments),
    ("return_type", v.returnType)]

/-- The contents of the file of a group's actions as a value. -/
def ActionsView.toValue (v : ActionsView) : Value :=
  record [("group", .str v.group), ("typed", .bool v.typed), ("has_types", .bool v.hasTypes),
    ("st", .str v.statementEnd), ("actions", .list (v.actions.map ActionView.toValue))]

end ClientScribe.Client
