import ClientScribe.Source.Charset.Chart.Big5
import ClientScribe.Source.Charset.Chart.Gb2312
import ClientScribe.Source.Charset.Chart.HongKong
import ClientScribe.Source.Charset.Front

/-!
# Chinese encodings

GB 2312 has a part of the ideographs. GBK puts all others of the first block, in their order, into
the pairs that are left, and GB 18030 gives the pairs that are still left to private use and every
other character four bytes. Big5 has a grid of its own, which others extend.

## Main definitions

* `Chinese`: the encodings.
* `Chinese.decode?`: reads bytes in one of them.
-/

namespace ClientScribe.Source

/-- The number of a pair of GBK, which has rows of 190. -/
def gbkNumber? (a b : Nat) : Option Nat :=
  if a < 0x81 || 0xFE < a then none
  else if 0x40 ≤ b && b ≤ 0x7E then some ((a - 0x81) * 190 + (b - 0x40))
  else if 0x80 ≤ b && b ≤ 0xFE then some ((a - 0x81) * 190 + (b - 0x41))
  else none

/-- The ideographs at the end of GBK that belong to the compatibility block. -/
def compatibilityIdeographs : List Char :=
  [0xF92C, 0xF979, 0xF995, 0xF9E7, 0xF9F1, 0xFA0C, 0xFA0D, 0xFA0E, 0xFA0F, 0xFA11, 0xFA13, 0xFA14,
    0xFA18, 0xFA1F, 0xFA20, 0xFA21, 0xFA23, 0xFA24, 0xFA27, 0xFA28, 0xFA29].map Char.ofNat

/-- Marks the numbers of characters that occur. -/
def markChars (bound : Nat) (chars : Array Char) : Array Bool :=
  chars.foldl (fun marks c => marks.setIfInBounds c.toNat true) (Array.replicate bound false)

/-- The numbers in a range that are not marked. -/
def unmarked (marks : Array Bool) (first count : Nat) : List Nat :=
  (List.range' first count).filter fun n => !marks.getD n false

/-- The ideographs that GBK adds to GB 2312. -/
def otherIdeographs (gb2312 : Array Char) : Array Char :=
  ((unmarked (markChars 0x9FA6 gb2312) 0x4E00 0x51A6).map Char.ofNat ++
    compatibilityIdeographs).toArray

/-- The number among the other ideographs that a pair of GBK has. -/
def otherIdeographNumber? (row place : Nat) : Option Nat :=
  if row < 0x20 then some (row * 190 + place)
  else if 0x29 ≤ row && place < 96 then some (0x20 * 190 + (row - 0x29) * 96 + place)
  else none

/-- The characters of GBK. -/
structure Gbk where
  common : Array Char
  symbols : Array Char
  ideographs : Array Char

/-- The characters of GBK by their charts. -/
def Gbk.ofCharts : Gbk :=
  let common := Chart.gb2312.cells
  ⟨common, Chart.gbkSymbols.cells, otherIdeographs common⟩

/-- The character with a number in GBK. -/
def Gbk.charAt? (g : Gbk) (n : Nat) : Option Char :=
  let row := n / 190
  let place := n % 190
  let inner := if 0x20 ≤ row && 96 ≤ place then cellAt? g.common ((row - 0x20) * 94 + (place - 96))
    else none
  cellAt? g.symbols n <|> inner <|> (otherIdeographNumber? row place).bind (g.ideographs[·]?)

/-- The areas of places for private use in GB 18030: in the middle of the grid, at its end, in front
of GB 2312, and the places left over between its characters. -/
inductive PrivateArea where
  | middle
  | last
  | front
  | between
  deriving DecidableEq

/-- The area of a place. -/
def PrivateArea.ofPlace (row place : Nat) : PrivateArea :=
  if 0x29 ≤ row && row ≤ 0x2E && 96 ≤ place then .middle
  else if 0x77 ≤ row && 96 ≤ place then .last
  else if 0x20 ≤ row && row ≤ 0x26 && place < 96 then .front
  else .between

/-- The next characters for private use in each area. -/
structure PrivateUse where
  middle : Nat := 0xE000
  last : Nat := 0xE234
  front : Nat := 0xE4C6
  between : Nat := 0xE766

/-- The next character of an area, which is then used. -/
def PrivateUse.next (p : PrivateUse) : PrivateArea → Char × PrivateUse
  | .middle => (Char.ofNat p.middle, { p with middle := p.middle + 1 })
  | .last => (Char.ofNat p.last, { p with last := p.last + 1 })
  | .front => (Char.ofNat p.front, { p with front := p.front + 1 })
  | .between => (Char.ofNat p.between, { p with between := p.between + 1 })

/-- How many pairs GB 18030 has. -/
def pairCount : Nat := 126 * 190

/-- The characters of the pairs of GB 18030. A place that GBK leaves uses up a character for private
use, also where it has another one. -/
def gb18030Pairs : Array Char :=
  let gbk := Gbk.ofCharts
  let symbols := Chart.gb18030Symbols.cells
  ((List.range pairCount).foldl (fun (chars, free) n =>
    match gbk.charAt? n with
    | some c => (chars.push c, free)
    | none =>
      let (c, free) := PrivateUse.next free (.ofPlace (n / 190) (n % 190))
      (chars.push ((cellAt? symbols n).getD c), free)) ((#[] : Array Char), ({} : PrivateUse))).1

/-- The characters of the basic plane that four bytes write: those beyond ASCII that no pair writes,
in their order. -/
def gb18030Basic (pairs : Array Char) : Array Char :=
  let marks := markChars 0x10000 pairs
  (unmarked marks 0x80 0xD780 ++ unmarked marks 0xE000 0x2000).toArray.map Char.ofNat

/-- The character that four bytes write. -/
def gb18030Quad? (basic : Array Char) (a b c d : Nat) : Option Char :=
  if a < 0x81 || 0xFE < a || c < 0x81 || 0xFE < c || d < 0x30 || 0x39 < d then none
  else
    let n := (a - 0x81) * 12600 + (b - 0x30) * 1260 + (c - 0x81) * 10 + (d - 0x30)
    let beyond := n - 15 * 12600
    if a < 0x85 then basic[n]?
    else if 0x90 ≤ a && beyond < 0x100000 then some (Char.ofNat (0x10000 + beyond))
    else none

/-- The front of bytes in GB 18030. -/
def gb18030Front (pairs basic : Array Char) : List UInt8 → Front Unit
  | [] => .cut
  | a :: rest =>
    match asciiChar? a.toNat, rest with
    | some c, _ => .text [.char c] 1 ()
    | none, [] => .cut
    | none, b :: rest =>
      if 0x30 ≤ b && b ≤ 0x39 then
        match rest with
        | c :: d :: _ => .ofChar? (gb18030Quad? basic a.toNat b.toNat c.toNat d.toNat) 4
        | _ => .cut
      else .ofChar? ((gbkNumber? a.toNat b.toNat).bind (pairs[·]?)) 2

/-- The front of bytes in the encoding HZ. A tilde begins and ends text of pairs of seven bits, in
which `paired` holds. -/
def hzFront (cells : Array Char) (paired : Bool) : List UInt8 → Front Bool
  | [] => .cut
  | [a] => if a == 0x7E || (paired && a < 0x80) then .cut
    else if a < 0x80 then .text [.char (Char.ofNat a.toNat)] 1 paired else .misfit 1
  | a :: b :: _ =>
    if a == 0x7E then
      if paired then
        if b == 0x7D then .text [] 2 false else .misfit 1
      else if b == 0x7E then .text [.char '~'] 2 false
      else if b == 0x7B then .text [] 2 true
      else if b == 0x0A then .text [] 2 false
      else .misfit 1
    else if 0x80 ≤ a then .misfit 1
    else if !paired then .text [.char (Char.ofNat a.toNat)] 1 false
    else match (gridNumber? 0x21 a.toNat b.toNat).bind (cellAt? cells) with
      | some c => .text [.char c] 2 true
      | none => .misfit 1

/-- The number of a pair of Big5, which has rows of 157. -/
def big5Number? (a b : Nat) : Option Nat :=
  if a < 0x81 || 0xFE < a then none
  else if 0x40 ≤ b && b ≤ 0x7E then some ((a - 0x81) * 157 + (b - 0x40))
  else if 0xA1 ≤ b && b ≤ 0xFE then some ((a - 0x81) * 157 + 63 + (b - 0xA1))
  else none

/-- What a pair writes in the Hong Kong extension of Big5, which takes some rows for itself. -/
def hongKongPair? (common added : Array Char) (a b : Nat) : Option Text := do
  let n ← big5Number? a b
  let own := 0x45 * 157 + 63 ≤ n && n < 0x48 * 157
  match cellAt? added n <|> (if own then none else cellAt? common n) with
  | some c => return [.char c]
  | none => (Chart.hongKongPairs.find? (·.1 == n)).map fun (_, t) => Text.ofString t

/-- The Chinese encodings. -/
inductive Chinese where
  | gb2312
  | gbk
  | gb18030
  | hz
  | big5
  /-- The Windows code page 950. -/
  | big5Windows
  | big5HongKong

/-- Reads bytes in a Chinese encoding. -/
def Chinese.decode? (e : Chinese) (bytes : List UInt8) : Option Text :=
  let pair := fun (read : Nat → Nat → Option Char) =>
    pairFront asciiChar? fun a b => (read a b).map fun c => [.char c]
  match e with
  | gb2312 =>
    let cells := Chart.gb2312.cells
    readPlainFronts (pair fun a b => (gridNumber? 0xA1 a b).bind (cellAt? cells)) bytes
  | gbk =>
    let chars := Gbk.ofCharts
    readPlainFronts (pair fun a b => (gbkNumber? a b).bind chars.charAt?) bytes
  | gb18030 =>
    let pairs := gb18030Pairs
    readPlainFronts (gb18030Front pairs (gb18030Basic pairs)) bytes
  | hz => readFronts (hzFront Chart.gb2312.cells) false 0 [] bytes
  | big5 =>
    let cells := Chart.big5.cells
    readPlainFronts (pair fun a b => (big5Number? a b).bind (cellAt? cells)) bytes
  | big5Windows =>
    let cells := Chart.big5.cells
    let added := Chart.windowsTraditional.cells
    readPlainFronts (pair fun a b => (big5Number? a b).bind fun n =>
      cellAt? added n <|> cellAt? cells n) bytes
  | big5HongKong =>
    readPlainFronts (pairFront asciiChar?
      (hongKongPair? Chart.big5.cells Chart.hongKong.cells)) bytes

end ClientScribe.Source
