import ClientScribe.Source.Charset.Chart.JisX0208
import ClientScribe.Source.Charset.Chart.JisX0212
import ClientScribe.Source.Charset.Chart.JisX0213
import ClientScribe.Source.Charset.Front

/-!
# Japanese encodings

EUC writes a row and a place of JIS X 0208 as two bytes above 160; a byte in front leads to other
sets. Shift JIS packs two rows of 94 into one byte in front, since the bytes between its ranges are
katakana of half the width.

## Main definitions

* `Japanese`: the encodings.
* `Japanese.decode?`: reads bytes in one of them.
-/

namespace ClientScribe.Source

/-- The character of a byte of katakana. -/
def katakana? (n : Nat) : Option Char :=
  if 0xA1 ≤ n && n ≤ 0xDF then some (Char.ofNat (0xFEC0 + n)) else none

/-- The character of a byte in the Roman set, which has a yen sign and an overline. -/
def roman? (n : Nat) : Option Char :=
  if n == 0x5C then some '¥' else if n == 0x7E then some '‾' else asciiChar? n

/-- The number of a pair of Shift JIS: both bytes have gaps. -/
def shiftedNumber? (a b : Nat) : Option Nat := do
  let row ← if 0x81 ≤ a && a ≤ 0x9F then some (a - 0x81)
    else if 0xE0 ≤ a && a ≤ 0xFC then some (a - 0xC1) else none
  let place ← if 0x40 ≤ b && b ≤ 0x7E then some (b - 0x40)
    else if 0x80 ≤ b && b ≤ 0xFC then some (b - 0x41) else none
  return row * 188 + place

/-- The editions of JIS X 0213. -/
inductive JisX0213Edition where
  | first
  | second
  deriving DecidableEq

/-- The places that the second edition of JIS X 0213 added. -/
def laterPlaces : List Nat := [1222, 1409, 4375, 4417, 7808, 8831, 8832, 8833, 8834, 8835]

/-- What the places of the first plane of JIS X 0213 write. -/
structure FirstPlane where
  common : Array Char
  added : Array Char
  edition : JisX0213Edition

/-- The first plane in an edition. -/
def FirstPlane.ofEdition (edition : JisX0213Edition) : FirstPlane :=
  ⟨Chart.jisX0208.cells, Chart.jisX0213First.cells, edition⟩

/-- What a place of the first plane writes. -/
def FirstPlane.text? (p : FirstPlane) (n : Nat) : Option Text :=
  if p.edition == .first && laterPlaces.contains n then none
  else match cellAt? p.common n <|> cellAt? p.added n with
    | some c => some [.char c]
    | none => (Chart.jisX0213Pairs.find? (·.1 == n)).map fun (_, t) => Text.ofString t

/-- The place of the second plane that reads another way outside the second edition. -/
def secondPlaneVariant : Nat := 92 * 94 + 26

/-- The character of a place of the second plane in pairs of an edition. -/
def secondPlaneChar? (edition : JisX0213Edition) (cells : Array Char) (n : Nat) : Option Char :=
  if edition == .first && n == secondPlaneVariant then some (Char.ofNat 0x9B1D)
  else cellAt? cells n

/-- The front of bytes in EUC: `pair` reads two bytes, and `triple` what stands behind the byte that
leads to a further set. -/
def eucFront (pair triple : Nat → Nat → Option Text) : List UInt8 → Front Unit
  | 0x8F :: rest =>
    match rest with
    | b :: c :: _ => .ofText? (triple b.toNat c.toNat) 3
    | _ => .cut
  | bytes =>
    pairFront asciiChar? (fun a b =>
      if a == 0x8E then (katakana? b).map fun c => [.char c] else pair a b) bytes

/-- The Japanese encodings. -/
inductive Japanese where
  | euc
  | eucX0213 (edition : JisX0213Edition)
  | shifted
  /-- The Windows code page 932. -/
  | shiftedWindows
  | shiftedX0213 (edition : JisX0213Edition)

/-- The front of bytes where pairs write JIS X 0213. In the first edition a place that only the
second one has takes its pair along. -/
def x0213Front (edition : JisX0213Edition) (number? : Nat → Nat → Option Nat)
    (front : List UInt8 → Front Unit) (bytes : List UInt8) : Front Unit :=
  match bytes with
  | a :: b :: _ =>
    if edition == .first && (number? a.toNat b.toNat).any laterPlaces.contains then .misfit 2
    else front bytes
  | _ => front bytes

/-- The character of a place of a chart, as a text. -/
def cellText? (cells : Array Char) (n : Option Nat) : Option Text :=
  (n.bind (cellAt? cells)).map fun c => [.char c]

/-- What a pair of the Windows code page writes; some rows are for private use. -/
def windowsJapanesePair? (common added : Array Char) (a b : Nat) : Option Text := do
  let n ← shiftedNumber? a b
  let c ←
    if 0xF0 ≤ a && a ≤ 0xF9 then some (Char.ofNat (0xE000 + (n - 94 * 94)))
    else cellAt? added n <|> cellAt? common n
  return [.char c]

/-- The character of a byte by itself in the Windows code page. -/
def windowsJapaneseSingle? (n : Nat) : Option Char :=
  if n ≤ 0x80 then some (Char.ofNat n)
  else if n == 0xA0 then some (Char.ofNat 0xF8F0)
  else if 0xFD ≤ n then some (Char.ofNat (0xF8F1 + (n - 0xFD)))
  else katakana? n

/-- The row of the second plane of JIS X 0213 that a row of Shift JIS behind the first plane is. -/
def secondPlaneRow (row : Nat) : Nat :=
  if 0x67 ≤ row then row - 26
  else if 0x63 ≤ row || row == 0x5F then row - 88
  else row - 94

/-- What a pair of Shift JIS with JIS X 0213 writes. -/
def shiftedX0213Pair? (edition : JisX0213Edition) (plane : FirstPlane) (second : Array Char)
    (a b : Nat) : Option Text := do
  let n ← shiftedNumber? a b
  if n < 94 * 94 then plane.text? n
  else
    let place := secondPlaneRow (n / 94) * 94 + n % 94
    return [.char (← secondPlaneChar? edition second place)]

/-- Reads bytes in a Japanese encoding. -/
def Japanese.decode? (e : Japanese) (bytes : List UInt8) : Option Text :=
  let common := Chart.jisX0208.cells
  match e with
  | euc =>
    let further := Chart.jisX0212.cells
    readPlainFronts
      (eucFront (fun a b => cellText? common (gridNumber? 0xA1 a b))
        fun b c => cellText? further (gridNumber? 0xA1 b c)) bytes
  | eucX0213 edition =>
    let plane := FirstPlane.ofEdition edition
    let second := Chart.jisX0213Second.cells
    let further := Chart.jisX0212.cells
    readPlainFronts
      (x0213Front edition (gridNumber? 0xA1) (eucFront
        (fun a b => do
          let n ← gridNumber? 0xA1 a b
          if n == 94 + 17 then return [.char (Char.ofNat 0xFF5E)] else plane.text? n)
        fun b c => do
          let n ← gridNumber? 0xA1 b c
          return [.char (← secondPlaneChar? edition second n <|> cellAt? further n)])) bytes
  | shifted =>
    readPlainFronts
      (pairFront (fun n => asciiChar? n <|> katakana? n) fun a b =>
        cellText? common (shiftedNumber? a b)) bytes
  | shiftedWindows =>
    let added := Chart.windowsJapanese.cells
    readPlainFronts (pairFront windowsJapaneseSingle? (windowsJapanesePair? common added)) bytes
  | shiftedX0213 edition =>
    let plane := FirstPlane.ofEdition edition
    let second := Chart.jisX0213Second.cells
    readPlainFronts
      (x0213Front edition shiftedNumber? (pairFront (fun n => roman? n <|> katakana? n) fun a b =>
        if a == 0x81 && b == 0x5F then some [.char '\\']
        else shiftedX0213Pair? edition plane second a b)) bytes

end ClientScribe.Source
