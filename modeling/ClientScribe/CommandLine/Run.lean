import ClientScribe.Api.Derived
import ClientScribe.CommandLine.Settings
import ClientScribe.Output.Writing
import ClientScribe.Source.Load

/-!
# Runs of the command

A run loads the description, fills in its derived fields and writes the client. At its end it says
how many files there are, or what the problem is, behind the notices that are important enough. A
misfit ends a run without a word.

Notices are shown as soon as they are given. One with a number that is too long to be written down
is only replaced by a word about the mishap. One with a value that is nested too deeply ends the run
where it is given, which is before any file is written.

Main definitions:

* `Outcome` — how a run ends;
* `breaksOff` — the notices on which a run ends early;
* `run` — the run of a command line on a store.
-/

namespace ClientScribe.CommandLine

open Document (Value)
open Store (Path)

/-- How a run ends. -/
inductive Outcome where
  /-- The command line was not run. -/
  | refused
  /-- Help was given instead. -/
  | helped
  /-- A misfit ended the run. -/
  | crashed
  /-- The run is over, with an exit status, what is said, and what is said about problems. -/
  | ended (status : Nat) (output problems : Text)

/-- The exit status. -/
def Outcome.status : Outcome → Nat
  | refused => 2
  | helped => 0
  | crashed => 1
  | ended status _ _ => status

/-- The end of a run that has something to say, unless it cannot be said: half of a pair is written
by its number where problems are told, and cannot be written elsewhere. -/
def said (status : Nat) (output problems : Text) : Outcome :=
  match output.chars? with
  | some _ => .ended status output problems.withoutHalves
  | none => .crashed

/-- Whether a notice is shown. -/
def isShown (verbose : Bool) (n : Notice) : Bool :=
  verbose || n.level == .warning

/-- Whether a run breaks off where it gives a notice: it is shown, but nested too deeply to be
written down. -/
def breaksOff (verbose : Bool) (n : Notice) : Bool :=
  match n.line with
  | .error .tooDeep => isShown verbose n
  | _ => false

/-- A notice as it is told. If it cannot be written down, what is known about the mishap stands
behind the line that is told here; the run goes on. -/
def told (n : Notice) : Text :=
  match n.line with
  | .ok line => line
  | .error _ => "--- Logging error ---"

/-- The notices that are shown, a line each. -/
def noticeLines (verbose : Bool) (notices : List Notice) : Text :=
  (notices.filter (isShown verbose)).flatMap fun n => told n ++ "\n"

/-- The end of a run with an error. -/
def failed (verbose : Bool) (notices : List Notice) (e : Error) : Outcome :=
  match e.kind with
  | .misfit => .crashed
  | _ => said 1 [] (noticeLines verbose notices ++ "Error: " ++ e.message ++ "\n")

/-- What a run says at its end about the files it has written. -/
def summary (count : Nat) (directory : Path) : Text :=
  "Generated " ++ Text.ofNat count ++ " files in " ++ directory.text ++ "\n"

/-- The end of a run that got as far as writing. -/
def reported (s : Settings) (files : Logged (List Path)) : Outcome :=
  match files.result with
  | .ok paths =>
    said 0 (summary paths.length s.options.outDir) (noticeLines s.verbose files.notices)
  | .error e => failed s.verbose files.notices e

/-- The description of a source with its derived fields. -/
def description (store : Store) (fetch : Text → Source.Response) (source : Text) :
    Result Value := do
  Api.withDerivedFields (← Source.load store fetch source) (some source)

/-- The run of settings on a description. The notices on which it may break off are given before the
first file is written. -/
def generated (store : Store) (document : Value) (s : Settings) : Store × Outcome :=
  if (Output.clientFiles document s.options).notices.any (breaksOff s.verbose) then
    (store, .crashed)
  else
    let (store, files) := Output.writeClient store document s.options
    (store, reported s files)

/-- The run of a command line on a store; `fetch` gives what comes back from an address. -/
def run (store : Store) (fetch : Text → Source.Response) (arguments : List Text) :
    Store × Outcome :=
  match settings store arguments with
  | .error .usage => (store, .refused)
  | .error .misfit => (store, .crashed)
  | .error .help => (store, .helped)
  | .ok s =>
    match description store fetch s.source with
    | .error e => (store, failed s.verbose [] e)
    | .ok document => generated store document s

end ClientScribe.CommandLine
