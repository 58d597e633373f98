import ClientScribe.CommandLine.Arguments
import ClientScribe.Options
import ClientScribe.Store.Basic

/-!
# Settings of a run

What a command line asks for. A run needs one source and a directory; the language and the
indentation unit are chosen from a few, and the directory must not be a file. Switches are checked
in the order in which they are first given. A command line that asks for help is not looked at any
further, once its switches are read.
-/

namespace ClientScribe.CommandLine

open Document (misfit)

/-- What a command line asks for. -/
structure Settings where
  source : Text
  options : Options
  /-- Whether all notices are shown. -/
  verbose : Bool

/-- Why a command line is not run. -/
inductive Refusal where
  /-- The arguments are not as they should be. -/
  | usage
  /-- An argument cannot be used as what it stands for. -/
  | misfit
  /-- Help is asked for. -/
  | help
  deriving DecidableEq

/-- Whether a value is among those offered. -/
def checkChoice (offered : List Text) (value : Option Text) : Except Refusal Unit :=
  match value with
  | none => .ok ()
  | some value => if offered.contains value then .ok () else .error .usage

/-- Whether a directory can be written into as far as can be told: it is not a file. -/
def checkDirectory (store : Store) (value : Option Text) : Except Refusal Unit :=
  match value with
  | none => .ok ()
  | some value =>
    match store.isFile value with
    | .ok false => .ok ()
    | .ok true => .error .usage
    | .error _ => .error .misfit

/-- Whether the value of a switch can be used. -/
def check (store : Store) (given : Given) (s : Switch) : Except Refusal Unit :=
  match s with
  | .outDir => checkDirectory store (given.value? .outDir)
  | .language => checkChoice languages (given.value? .language)
  | .indent => checkChoice indents (given.value? .indent)
  | .redux => .ok ()
  | .semicolon => .ok ()
  | .verbose => .ok ()
  | .help => .ok ()

/-- The options that switches stand for. -/
def optionsOf (outDir : Text) (given : Given) : Result Options :=
  Options.make (.str outDir) (.str ((given.value? .language).getD "ts"))
    (.bool (given.has .redux)) (.str ((given.value? .indent).getD "2"))
    (.bool (given.has .semicolon))

/-- What switches and plain arguments ask for, or why they are not run. -/
def settingsOf (store : Store) (given : Given) : Except Refusal Settings := do
  let _ ← (given.switches.map (·.1)).eraseDups.mapM (check store given)
  match given.plain, given.value? .outDir with
  | [source], some outDir =>
    match optionsOf outDir given with
    | .ok options => return ⟨source, options, given.has .verbose⟩
    | .error _ => .error .usage
  | _, _ => .error .usage

/-- What a command line asks for, or why it is not run. -/
def settings (store : Store) (arguments : List Text) : Except Refusal Settings :=
  match Given.ofArguments arguments with
  | none => .error .usage
  | some given => if given.has .help then .error .help else settingsOf store given

end ClientScribe.CommandLine
