import ClientScribe.Source.Charset.Unicode
import ClientScribe.Text.Basic

/-!
# Reading bytes front by front

Where characters take several bytes, a reader looks at what stands in front of the bytes that are
left: characters, bytes that fit nothing, or the start of something that is cut off. What fits
nothing is read as the replacement character, and so is what is cut off at the end.

## Main definitions

* `Front`: what stands in front.
* `readFronts`: reads all bytes, given how to look at the front of them.
-/

namespace ClientScribe.Source

/-- What stands in front of bytes. -/
inductive Front (State : Type) where
  /-- What so many bytes write, and what holds behind them. -/
  | text (t : Text) (width : Nat) (next : State)
  /-- So many bytes that fit nothing. -/
  | misfit (width : Nat)
  /-- More bytes would have to follow. -/
  | cut
  /-- Bytes that no reader goes on behind. -/
  | refused

/-- How many bytes of a front that is cut off a reader keeps. -/
def keptBytes : Nat := 8

/-- Reads bytes front by front. The number of bytes is given that belong to the front before, and
what was read so far, the last first. -/
def readFronts {State : Type} (front : State → List UInt8 → Front State) (state : State)
    (within : Nat) (done : Text) : List UInt8 → Option Text
  | [] => some done.reverse
  | b :: rest =>
    match within with
    | more + 1 => readFronts front state more done rest
    | 0 =>
      match front state (b :: rest) with
      | .text t width next => readFronts front next (width - 1) (t.reverse ++ done) rest
      | .misfit width => readFronts front state (width - 1) (.char replacement :: done) rest
      | .cut =>
        if rest.length < keptBytes then some (.char replacement :: done).reverse else none
      | .refused => none

/-- Reads bytes of an encoding in which nothing changes what the bytes behind it write. -/
def readPlainFronts (front : List UInt8 → Front Unit) (bytes : List UInt8) : Option Text :=
  readFronts (fun _ => front) () 0 [] bytes

/-- What bytes write, if it is known. -/
def Front.ofText? (t : Option Text) (width : Nat) : Front Unit :=
  match t with
  | some t => .text t width ()
  | none => .misfit 1

/-- What bytes that stand for a character write. -/
def Front.ofChar? (c : Option Char) (width : Nat) : Front Unit :=
  .ofText? (c.map fun c => [.char c]) width

/-- The front of bytes that are characters by themselves or lead a pair. -/
def pairFront (single : Nat → Option Char) (pair : Nat → Nat → Option Text) :
    List UInt8 → Front Unit
  | [] => .cut
  | a :: rest =>
    match single a.toNat, rest with
    | some c, _ => .text [.char c] 1 ()
    | none, b :: _ => .ofText? (pair a.toNat b.toNat) 2
    | none, [] => .cut

/-- The character of a byte in ASCII. -/
def asciiChar? (n : Nat) : Option Char :=
  if n < 128 then some (Char.ofNat n) else none

end ClientScribe.Source
