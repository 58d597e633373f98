import ClientScribe.Client.Action
import ClientScribe.Client.Declaration
import ClientScribe.Client.Descriptor
import ClientScribe.Template.Actions
import ClientScribe.Template.Descriptor
import ClientScribe.Template.Types

/-!
# Files of a client

A client has a file for every group of operations, a file of types, a file with the descriptor of
the service and, if it is asked for, a file of actions for every group. All files are made before
any is written, so a description that cannot be expressed leaves no half of a client behind.

Main definitions:

* `ClientFile` — a file with its contents;
* `clientFiles` — the files of a client, in the order in which they are written.
-/

namespace ClientScribe.Output

open Api (Operation)
open Document (Value)
open Store (Path)
open Template (Part)

/-- A file of a client. -/
structure ClientFile where
  path : Path
  contents : Text

/-- The text of a template for a view, indented as the options say. -/
def written (parts : List Part) (view : Value) (options : Options) : Result Text := do
  return Template.reindent (← Template.render parts view) options.indent.unit

/-- The name of a file in the language of the client. -/
def fileName (name : Text) (options : Options) : Text :=
  name ++ "." ++ options.extension

/-- The file of a group of operations. -/
def operationsFile (document : Value) (options : Options) (group : Text × List Operation) :
    Result ClientFile := do
  let view ← Client.operationsView document group.1 group.2 options
  return ⟨options.outDir.child (fileName group.1 options),
    ← written Template.operations view.toValue options⟩

/-- The file of types. -/
def typesFile (document : Value) (ops : List Operation) (options : Options) :
    Logged ClientFile := do
  let view ← Client.typesView document ops options
  let contents ← (written Template.types view.toValue options : Result Text)
  return ⟨options.outDir.child (fileName "types" options), contents⟩

/-- The file of the descriptor. -/
def descriptorFile (document : Value) (options : Options) : Result ClientFile := do
  let view ← Client.descriptorView document options
  return ⟨(options.outDir.child "gateway").child (fileName "spec" options),
    ← written Template.descriptor view.toValue options⟩

/-- The file of a group's actions. -/
def actionsFile (document : Value) (options : Options) (group : Text × List Operation) :
    Result ClientFile := do
  let view ← Client.actionsView document group.1 group.2 options
  return ⟨(options.outDir.child "action").child (fileName group.1 options),
    ← written Template.actions view.toValue options⟩

/-- The files of a client. -/
def clientFiles (document : Value) (options : Options) : Logged (List ClientFile) := do
  let ops ← Api.operations document
  let groups := Api.grouped ops
  let operations ← (groups.mapM (operationsFile document options) : Result (List ClientFile))
  let types ← typesFile document ops options
  let descriptor ← (descriptorFile document options : Result ClientFile)
  let actions ←
    if options.redux.isTrue then
      (groups.mapM (actionsFile document options) : Result (List ClientFile))
    else pure []
  return operations ++ [types, descriptor] ++ actions

end ClientScribe.Output
