import ClientScribe.Text.Basic

/-!
# Arguments of the command line

The command takes the source of a description and switches. A switch is a word behind two hyphens or
a letter behind one; letters may stand together. The value of a switch stands behind an equals sign
after its word, right behind its letter, or in the next argument, whatever that looks like. Two
hyphens alone end the switches.

Main definitions:

* `Given` — the switches of a command line in order, and its plain arguments;
* `Given.ofArguments` — reads a command line, unless a switch is unknown or has a value too many or
  too few;
* `Given.value?` — of a switch that is given more than once the last value counts.
-/

namespace ClientScribe.CommandLine

/-- The switches of the command. -/
inductive Switch where
  | outDir
  | language
  | redux
  | indent
  | semicolon
  | verbose
  | help
  deriving DecidableEq

namespace Switch

/-- Whether a switch has a value. -/
def takesValue : Switch → Bool
  | outDir => true
  | language => true
  | indent => true
  | redux => false
  | semicolon => false
  | verbose => false
  | help => false

/-- The words of the switches. -/
def words : List (Text × Switch) :=
  [("out-dir", outDir), ("language", language), ("redux", redux), ("indent", indent),
    ("semicolon", semicolon), ("verbose", verbose), ("help", help)]

/-- The switch of a word. -/
def ofWord? (word : Text) : Option Switch :=
  words.lookup word

/-- The switch of a letter. -/
def ofLetter? : CodePoint → Option Switch
  | .char 'o' => some outDir
  | .char 'l' => some language
  | .char 'v' => some verbose
  | _ => none

end Switch

/-- What a command line gives. -/
structure Given where
  /-- Switches with their values, in order; a switch without a value has an empty one. -/
  switches : List (Switch × Text)
  plain : List Text

namespace Given

/-- A command line without an argument. -/
def nothing : Given := ⟨[], []⟩

/-- The command line with one more switch in front. -/
def withSwitch (s : Switch) (value : Text) (g : Given) : Given :=
  { g with switches := (s, value) :: g.switches }

/-- The command line with one more plain argument in front. -/
def withPlain (argument : Text) (g : Given) : Given :=
  { g with plain := argument :: g.plain }

/-- A word without and with the value behind its first equals sign. -/
def splitWord (word : Text) : Text × Option Text :=
  match word.dropWhile (· != .char '=') with
  | [] => (word, none)
  | _ :: value => (word.takeWhile (· != .char '='), some value)

/-- What the letters of one argument ask for. -/
structure Letters where
  switches : List (Switch × Text)
  /-- The switch whose value is the next argument. -/
  pending : Option Switch

/-- The switches of letters that stand together: the first one with a value takes the rest. -/
def letters : Text → Option Letters
  | [] => some ⟨[], none⟩
  | c :: rest => do
    let s ← Switch.ofLetter? c
    if s.takesValue then
      if rest.isEmpty then some ⟨[], some s⟩ else some ⟨[(s, rest)], none⟩
    else
      let more ← letters rest
      some { more with switches := (s, []) :: more.switches }

/-- Reads a command line; `pending` is the switch whose value comes next. -/
def read : Option Switch → List Text → Option Given
  | none, [] => some nothing
  | some _, [] => none
  | some s, value :: rest => (read none rest).map (withSwitch s value)
  | none, argument :: rest =>
    match argument with
    | [.char '-', .char '-'] => some ⟨[], rest⟩
    | .char '-' :: .char '-' :: word => do
      let (word, value) := splitWord word
      let s ← Switch.ofWord? word
      match s.takesValue, value with
      | true, some value => (read none rest).map (withSwitch s value)
      | true, none => read (some s) rest
      | false, some _ => none
      | false, none => (read none rest).map (withSwitch s [])
    | .char '-' :: c :: more => do
      let found ← letters (c :: more)
      let behind ← read found.pending rest
      some { behind with switches := found.switches ++ behind.switches }
    | _ => (read none rest).map (withPlain argument)

/-- What a command line gives, unless a switch is unknown or has a value too many or too few. -/
def ofArguments (arguments : List Text) : Option Given :=
  read none arguments

/-- The value of a switch. -/
def value? (g : Given) (s : Switch) : Option Text :=
  (g.switches.filter (·.1 == s)).getLast?.map (·.2)

/-- Whether a switch is given. -/
def has (g : Given) (s : Switch) : Bool :=
  g.switches.any (·.1 == s)

end Given

end ClientScribe.CommandLine
