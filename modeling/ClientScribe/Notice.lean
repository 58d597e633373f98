import ClientScribe.Document.Access

/-!
# Notices

While a client is written, notices say what was found, skipped and written. They are kept whether
the run ends well or early, so a step that gives notices is a result together with a list.

Main definitions:

* `Notice` — what there is to tell, with its level, the part of the program that tells it, and the
  wording;
* `Logged` — a result with the notices given on the way, in order.
-/

namespace ClientScribe

open Document (Unwritable Value)

/-- How important a notice is. -/
inductive Level where
  | debug
  | info
  | warning
  deriving DecidableEq

/-- The name of a level. -/
def Level.name : Level → Text
  | debug => "DEBUG"
  | info => "INFO"
  | warning => "WARNING"

/-- What there is to tell about a run. -/
inductive Notice where
  /-- So many operations were found. -/
  | extracted (count : Nat)
  /-- A schema is only a reference to another one. -/
  | skippedReference (target : Value)
  /-- The element type of an array body has a name that is already taken. -/
  | nameTaken (name : Text)
  /-- A schema has no shape that can be declared. -/
  | notDeclarable (name type : Value)
  /-- A file was written. -/
  | written (path : Text)

namespace Notice

/-- How important the notice is. -/
def level : Notice → Level
  | extracted _ => .debug
  | skippedReference _ => .debug
  | nameTaken _ => .warning
  | notDeclarable _ _ => .warning
  | written _ => .info

/-- The part of the program that gives the notice. -/
def origin : Notice → Text
  | extracted _ => "clientgen.loader"
  | skippedReference _ => "clientgen.context_builder"
  | nameTaken _ => "clientgen.context_builder"
  | notDeclarable _ _ => "clientgen.context_builder"
  | written _ => "clientgen.codegen"

/-- The wording of the notice, unless a value in it has none. -/
def message : Notice → Except Unwritable Text
  | extracted count => .ok ("Extracted " ++ Text.ofNat count ++ " operations")
  | skippedReference target => do return "Skipping $ref to " ++ (← target.wording)
  | nameTaken name => .ok ("Skipping already defined base type for " ++ name ++ "[]")
  | notDeclarable name type => do
    return "Unable to render " ++ (← name.wording) ++ " " ++ (← type.wording) ++ ", skipping."
  | written path => .ok ("Generated " ++ path)

/-- The notice as one line: level, origin and wording. -/
def line (n : Notice) : Except Unwritable Text := do
  return n.level.name ++ " " ++ n.origin ++ ": " ++ (← n.message)

end Notice

/-- A result with the notices given on the way. -/
structure Logged (α : Type) where
  result : Result α
  notices : List Notice

namespace Logged

/-- A result without a notice. -/
def ofResult {α : Type} (r : Result α) : Logged α := ⟨r, []⟩

/-- The next step after a result; an error ends the run and keeps the notices given so far. -/
def andThen {α β : Type} (x : Logged α) (f : α → Logged β) : Logged β :=
  match x.result with
  | .ok a => ⟨(f a).result, x.notices ++ (f a).notices⟩
  | .error e => ⟨.error e, x.notices⟩

instance : Monad Logged where
  pure a := ofResult (.ok a)
  bind := andThen

instance : MonadLift Result Logged where
  monadLift := ofResult

/-- One notice. -/
def note (n : Notice) : Logged Unit := ⟨.ok (), [n]⟩

end Logged

end ClientScribe
