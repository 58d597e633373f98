import ClientScribe.Source.Charset.Chart.KsX1001
import ClientScribe.Source.Charset.Front

/-!
# Korean encodings

EUC writes KS X 1001, whose syllables are not all that the script has. The encoding that Windows
uses puts the other syllables, in their order, into the pairs that EUC leaves; EUC itself spells
them out in eight bytes. Johab packs the three parts of a syllable into the bits of two bytes.

## Main definitions

* `Korean`: the encodings.
* `Korean.decode?`: reads bytes in one of them.
-/

namespace ClientScribe.Source

/-- The number of syllables. -/
def syllableCount : Nat := 11172

/-- The syllable with a number. -/
def syllable (n : Nat) : Char := Char.ofNat (0xAC00 + n)

/-- The syllables that a set does not have, in their order. -/
def otherSyllables (cells : Array Char) : Array Char :=
  let known := cells.foldl (fun known c =>
    if 0xAC00 ≤ c.toNat then known.setIfInBounds (c.toNat - 0xAC00) true else known)
    (Array.replicate syllableCount false)
  ((List.range syllableCount).filter (fun n => !known.getD n false)).toArray.map syllable

/-- The character that fills the place of a part that a syllable lacks. -/
def filler : Char := Char.ofNat 0x3164

/-- The first consonants of syllables as the place of the letter among the 51 letters. -/
def leadingLetters : List Nat :=
  [0, 1, 3, 6, 7, 8, 16, 17, 18, 20, 21, 22, 23, 24, 25, 26, 27, 28, 29]

/-- The last consonants of syllables behind the empty one, likewise. -/
def trailingLetters : List Nat :=
  [0, 1, 2, 3, 4, 5, 6, 8, 9, 10, 11, 12, 13, 14, 15, 16, 17, 19, 20, 21, 22, 23, 25, 26, 27, 28,
    29]

/-- The number of vowels. -/
def vowelCount : Nat := 21

/-- The number of the last consonants, with the empty one. -/
def trailCount : Nat := 28

/-- The syllable of its three parts. -/
def composed (lead vowel trail : Nat) : Char :=
  syllable ((lead * vowelCount + vowel) * trailCount + trail)

/-- The syllable that eight bytes spell: the filler and three letters, each behind the byte of the
row of letters. -/
def spelled? : List UInt8 → Option Char
  | [0xA4, 0xD4, 0xA4, first, 0xA4, second, 0xA4, third] => do
    let place := fun (b : UInt8) => b.toNat - 0xA1
    if first < 0xA1 || second < 0xBF || 0xD3 < second || third < 0xA1 then none
    else
      let lead ← leadingLetters.idxOf? (place first)
      let trail ←
        if third == 0xD4 then some 0
        else (trailingLetters.idxOf? (place third)).map (· + 1)
      return composed lead (second.toNat - 0xBF) trail
  | _ => none

/-- The front of bytes in EUC. The filler begins a syllable that is spelled. -/
def koreanEucFront (cells : Array Char) : List UInt8 → Front Unit
  | 0xA4 :: 0xD4 :: rest =>
    if rest.length < 6 then .cut
    else .ofChar? (spelled? (0xA4 :: 0xD4 :: rest.take 6)) 8
  | bytes =>
    pairFront asciiChar? (fun a b =>
      ((gridNumber? 0xA1 a b).bind (cellAt? cells)).map fun c => [.char c]) bytes

/-- The number among the other syllables that a pair has in the encoding of Windows. -/
def otherSyllableNumber? (a b : Nat) : Option Nat := do
  let place ← if 0x41 ≤ b && b ≤ 0x5A then some (b - 0x41)
    else if 0x61 ≤ b && b ≤ 0x7A then some (b - 0x47)
    else if 0x81 ≤ b && b ≤ 0xFE then some (b - 0x4D) else none
  if 0x81 ≤ a && a ≤ 0xA0 then some ((a - 0x81) * 178 + place)
  else if 0xA1 ≤ a && place < 84 then some (32 * 178 + (a - 0xA1) * 84 + place)
  else none

/-- What the five bits of a part of a syllable say in Johab. -/
inductive JohabPart where
  | none
  /-- The part is not there. -/
  | filler
  | letter (n : Nat)
  deriving DecidableEq

/-- The first consonant that bits stand for. -/
def johabLead (n : Nat) : JohabPart :=
  if n == 1 then .filler else if 2 ≤ n && n ≤ 20 then .letter (n - 2) else .none

/-- The vowel that bits stand for; every eight numbers begin with two that have no meaning. -/
def johabVowel (n : Nat) : JohabPart :=
  if n == 2 then .filler
  else if n < 3 || n % 8 < 2 || 29 < n then .none
  else .letter (n - 3 - 2 * (n / 8))

/-- The last consonant that bits stand for, without the empty one. -/
def johabTrail (n : Nat) : JohabPart :=
  if n == 1 then .filler
  else if n < 2 || n == 18 || 29 < n then .none
  else .letter (if n < 18 then n - 1 else n - 2)

/-- The letter with a place among the 51 letters. -/
def letterChar (place : Nat) : Char := Char.ofNat (0x3131 + place)

/-- What three parts of a syllable write. -/
def johabChar? : JohabPart → JohabPart → JohabPart → Option Char
  | .filler, .filler, .filler => some (Char.ofNat 0x3000)
  | .filler, .filler, .letter t => some (letterChar (trailingLetters.getD (t - 1) 0))
  | .filler, .letter v, .filler => some (letterChar (30 + v))
  | .letter l, .filler, .filler => some (letterChar (leadingLetters.getD l 0))
  | .letter l, .letter v, .filler => some (composed l v 0)
  | .letter l, .letter v, .letter t => some (composed l v t)
  | _, _, _ => none

/-- The number of a sign of KS X 1001 in Johab. The letters are not written this way. -/
def johabSignNumber? (a b : Nat) : Option Nat := do
  let place ← if 0x31 ≤ b && b ≤ 0x7E then some (b - 0x31)
    else if 0x91 ≤ b && b ≤ 0xFE then some (b - 0x43) else none
  if a < 0xD8 || a == 0xDF || 0xF9 < a || (a == 0xDA && 0xA1 ≤ b && b ≤ 0xD3) then none
  else if a < 0xE0 then
    if a == 0xD8 then none else some ((a - 0xD9) * 188 + place)
  else some ((2 * a - 0x197) * 94 + place)

/-- What a pair writes in Johab. -/
def johabPair? (cells : Array Char) (a b : Nat) : Option Char :=
  if a < 0xD8 then
    johabChar? (johabLead (a / 4 % 32)) (johabVowel (a * 8 % 32 + b / 32)) (johabTrail (b % 32))
  else (johabSignNumber? a b).bind (cellAt? cells)

/-- The Korean encodings. -/
inductive Korean where
  | euc
  /-- The Windows code page 949. -/
  | windows
  | johab

/-- Reads bytes in a Korean encoding. -/
def Korean.decode? (e : Korean) (bytes : List UInt8) : Option Text :=
  let cells := Chart.ksX1001.cells
  let pair := fun (read : Nat → Nat → Option Char) =>
    pairFront asciiChar? fun a b => (read a b).map fun c => [.char c]
  match e with
  | euc => readPlainFronts (koreanEucFront cells) bytes
  | windows =>
    let others := otherSyllables cells
    readPlainFronts (pair fun a b =>
      (gridNumber? 0xA1 a b).bind (cellAt? cells) <|>
        (otherSyllableNumber? a b).bind (others[·]?)) bytes
  | johab => readPlainFronts (pair (johabPair? cells)) bytes

end ClientScribe.Source
