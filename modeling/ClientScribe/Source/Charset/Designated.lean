import ClientScribe.Source.Charset.ByteTable.Iso
import ClientScribe.Source.Charset.Chart.Gb2312
import ClientScribe.Source.Charset.Chart.KsX1001
import ClientScribe.Source.Charset.Japanese

/-!
# Encodings that designate sets

In the encodings of ISO 2022 all bytes have seven bits, and escape sequences tell what they stand
for: a sequence designates a character set as the first, the second or the third one. The first set
is in use; a byte can shift to the second one up to the end of the line, and a sequence reads one
character of the third one. A sequence that designates nothing fits nothing, and what follows any
other escape is taken as it is.

## Main definitions

* `GraphicSet`: the sets that can be designated.
* `Designating`: an encoding by what it can designate.
* `Designating.decode?`: reads bytes in it.
-/

namespace ClientScribe.Source

/-- The sets that escape sequences designate. -/
inductive GraphicSet where
  | ascii
  | roman
  | katakana
  | latin
  | greek
  | jisX0208
  /-- The set that JIS X 0208 took the place of, which is read as if it were that. -/
  | jisC6226
  | jisX0212
  | jisX0213 (edition : JisX0213Edition)
  | jisX0213Second
  | gb2312
  | ksX1001
  deriving DecidableEq

/-- The set that the last byte of an escape sequence names, among the sets of one byte or of two. -/
def GraphicSet.ofMark? (paired : Bool) (mark : UInt8) : Option GraphicSet :=
  let c := Char.ofNat mark.toNat
  if paired then
    match c with
    | 'B' => some jisX0208
    | '@' => some jisC6226
    | 'D' => some jisX0212
    | 'O' => some (jisX0213 .first)
    | 'Q' => some (jisX0213 .second)
    | 'P' => some jisX0213Second
    | 'A' => some gb2312
    | 'C' => some ksX1001
    | _ => none
  else
    match c with
    | 'B' => some ascii
    | 'J' => some roman
    | 'I' => some katakana
    | 'A' => some latin
    | 'F' => some greek
    | _ => none

/-- Whether a character of a set has two bytes. -/
def GraphicSet.isPaired : GraphicSet → Bool
  | ascii | roman | katakana | latin | greek => false
  | _ => true

/-- The characters of the sets of two bytes. -/
structure GraphicCells where
  jisX0208 : Array Char
  jisX0212 : Array Char
  added : Array Char
  second : Array Char
  gb2312 : Array Char
  ksX1001 : Array Char

/-- The characters by their charts. -/
def GraphicCells.ofCharts : GraphicCells :=
  ⟨Chart.jisX0208.cells, Chart.jisX0212.cells, Chart.jisX0213First.cells,
    Chart.jisX0213Second.cells, Chart.gb2312.cells, Chart.ksX1001.cells⟩

/-- What a place of a set of two bytes writes. -/
def GraphicSet.pairText? (cells : GraphicCells) (n : Nat) : GraphicSet → Option Text
  | jisX0208 | jisC6226 => cellText? cells.jisX0208 (some n)
  | jisX0212 => cellText? cells.jisX0212 (some n)
  | jisX0213 edition => FirstPlane.text? ⟨cells.jisX0208, cells.added, edition⟩ n
  | jisX0213Second => cellText? cells.second (some n)
  | gb2312 => cellText? cells.gb2312 (some n)
  | ksX1001 => cellText? cells.ksX1001 (some n)
  | _ => none

/-- The character of a byte in a set of one byte. Some sets are only read as the third one. -/
def GraphicSet.char? (n : Nat) : GraphicSet → Option Char
  | ascii => asciiChar? n
  | roman => roman? n
  | katakana => katakana? (n + 0x80)
  | _ => none

/-- An encoding by what it can designate. -/
structure Designating where
  /-- The sets besides ASCII. -/
  sets : List GraphicSet
  /-- Whether bytes shift between the first and the second set. -/
  shifts : Bool := false
  /-- Whether there is a third set. -/
  third : Bool := false
  /-- Whether a sequence may have an earlier one in front that names the edition. -/
  editions : Bool := false

/-- The sets that are designated, whether the second one is in use, and whether an escape has to be
taken as it is. -/
structure Designations where
  first : GraphicSet := .ascii
  second : GraphicSet := .ascii
  third : GraphicSet := .ascii
  shifted : Bool := false
  through : Bool := false

/-- The first byte of an escape sequence. -/
def escape : UInt8 := 0x1B

/-- Whether a byte ends an escape sequence. -/
def isEscapeEnd (b : UInt8) : Bool := 0x40 ≤ b && b ≤ 0x5A

/-- Where an escape sequence ends. -/
inductive EscapeEnd where
  | length (n : Nat)
  | cut
  | unended

/-- How many bytes an escape sequence has at most. -/
def longestEscape : Nat := 16

/-- The end of an escape sequence, from its byte with a number on, if so many bytes are passed. A
name of an edition is passed with the byte behind it. -/
def escapeEnd (editions : Bool) (passed i : Nat) : List UInt8 → EscapeEnd
  | [] => if i + passed < longestEscape then .cut else .unended
  | b :: rest =>
    match passed with
    | more + 1 => escapeEnd editions more (i + 1) rest
    | 0 =>
      if longestEscape ≤ i then .unended
      else if isEscapeEnd b then .length (i + 1)
      else escapeEnd editions (if editions && b == 0x26 && rest.head? == some 0x40 then 2 else 0)
        (i + 1) rest

/-- Which of the sets a sequence designates. -/
inductive SetPlace where
  | first
  | second
  | third

/-- The designations with one more. -/
def Designations.designate (d : Designations) (s : GraphicSet) : SetPlace → Designations
  | .first => { d with first := s }
  | .second => { d with second := s }
  | .third => { d with third := s }

namespace Designating

/-- The place, the kind and the name of the set that the bytes of a whole escape sequence
designate. -/
def target? (e : Designating) : List Char → Option (SetPlace × Bool × Char)
  | [_, '$', mark] => some (.first, true, mark)
  | [_, '(', mark] => some (.first, false, mark)
  | [_, ')', mark] => some (.second, false, mark)
  | [_, '.', mark] => if e.third then some (.third, false, mark) else none
  | [_, '$', '(', mark] => some (.first, true, mark)
  | [_, '$', ')', mark] => some (.second, true, mark)
  | [_, _, _, '\x1b', '$', 'B'] => if e.editions then some (.first, true, 'B') else none
  | _ => none

/-- Whether an encoding can designate a set. -/
def has (e : Designating) (s : GraphicSet) : Bool := s == .ascii || e.sets.contains s

/-- What an escape sequence in front of bytes does. -/
def escapeFront (e : Designating) (d : Designations) (bytes : List UInt8) : Front Designations :=
  match escapeEnd e.editions 0 1 (bytes.drop 1) with
  | .cut => .cut
  | .unended => .misfit 1
  | .length n =>
    let designated := do
      let (place, paired, mark) ← e.target? ((bytes.take n).map fun b => Char.ofNat b.toNat)
      let s ← GraphicSet.ofMark? paired mark.toNat.toUInt8
      if e.has s then some (d.designate s place) else none
    match designated with
    | some d => .text [] n d
    | none => .misfit n

/-- The character of a byte in the third set. -/
def thirdFront (d : Designations) (b : UInt8) : Front Designations :=
  let n := b.toNat
  let read := fun (c : Option Char) =>
    match c with
    | some c => Front.text [.char c] 3 d
    | none => .misfit 3
  match d.third with
  | .ascii => read (asciiChar? n)
  | .latin => read (if n < 0x80 then some (Char.ofNat (n + 0x80)) else none)
  | .greek =>
    let c := ByteTable.charOf ByteTable.iso7.chars (b ^^^ 0x80)
    read (if c == replacement || n == 0x24 || n == 0x25 || n == 0x2A then none else some c)
  | _ => .refused

/-- What the bytes in front write in the set that is in use. -/
def setFront (cells : GraphicCells) (d : Designations) (a : UInt8) (rest : List UInt8) :
    Front Designations :=
  let s := if d.shifted then d.second else d.first
  if s.isPaired then
    match rest with
    | [] => .cut
    | b :: _ =>
      match (gridNumber? 0x21 a.toNat b.toNat).bind (s.pairText? cells) with
      | some t => .text t 2 d
      | none => .misfit 2
  else
    match s.char? a.toNat with
    | some c => .text [.char c] 1 d
    | none => .misfit 1

/-- The front of bytes. -/
def front (e : Designating) (cells : GraphicCells) (d : Designations) :
    List UInt8 → Front Designations
  | [] => .cut
  | a :: rest =>
    let same := CodePoint.char (Char.ofNat a.toNat)
    if d.through then .text [same] 1 { d with through := !isEscapeEnd a }
    else if a == escape then
      match rest with
      | [] => .cut
      | b :: more =>
        if b == 0x28 || b == 0x29 || b == 0x24 || b == 0x2E || b == 0x26 then
          e.escapeFront d (a :: rest)
        else if e.third && b == 0x4E then
          match more with
          | [] => .cut
          | c :: _ => thirdFront d c
        else .text [same] 1 { d with through := true }
    else if e.shifts && a == 0x0F then .text [] 1 { d with shifted := false }
    else if e.shifts && a == 0x0E then .text [] 1 { d with shifted := true }
    else if a == 0x0A then .text [same] 1 { d with shifted := false }
    else if a < 0x20 then .text [same] 1 d
    else if 0x80 ≤ a then .misfit 1
    else setFront cells d a rest

/-- Reads bytes in an encoding that designates sets. -/
def decode? (e : Designating) (bytes : List UInt8) : Option Text :=
  readFronts (e.front .ofCharts) {} 0 [] bytes

/-- The Korean encoding. -/
def korean : Designating where
  sets := [.ksX1001]
  shifts := true

/-- A Japanese encoding with sets besides the common one. -/
def japaneseWith (sets : List GraphicSet) : Designating where
  sets := .jisX0208 :: sets
  editions := true

/-- The first Japanese encoding. -/
def japanese : Designating := japaneseWith [.roman, .jisC6226]

/-- The Japanese encoding with JIS X 0212. -/
def japanese1 : Designating := japaneseWith [.roman, .jisC6226, .jisX0212]

/-- The Japanese encoding with Chinese, Korean, Latin and Greek sets. -/
def japanese2 : Designating :=
  { japaneseWith [.roman, .jisC6226, .jisX0212, .ksX1001, .gb2312, .latin, .greek] with
    third := true }

/-- The Japanese encoding with the first edition of JIS X 0213. -/
def japanese3 : Designating := japaneseWith [.jisX0213 .first, .jisX0213Second]

/-- The Japanese encoding with the second edition of JIS X 0213. -/
def japanese2004 : Designating := japaneseWith [.jisX0213 .second, .jisX0213Second]

/-- The Japanese encoding with JIS X 0212 and katakana. -/
def japaneseExtended : Designating := japaneseWith [.roman, .jisC6226, .jisX0212, .katakana]

end Designating

end ClientScribe.Source
