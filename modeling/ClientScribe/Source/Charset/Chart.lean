import ClientScribe.Source.Charset.Unicode

/-!
# Charts of characters

A character set gives characters numbers, mostly by their rows and their places in a row. A chart
lists the characters of a set in runs of numbers that follow each other.
-/

namespace ClientScribe.Source

/-- Characters by number. A run is the number of its first character and lines of characters, in
which the replacement character stands for none. The runs have rising numbers. -/
structure Chart where
  runs : List (Nat × List String)

namespace Chart

/-- Puts a run behind the characters so far; there is none between them. -/
def addRun (cells : Array Char) (run : Nat × List String) : Array Char :=
  run.2.foldl (fun cells line => line.toList.foldl Array.push cells)
    (cells ++ Array.replicate (run.1 - cells.size) replacement)

/-- The characters of a chart by number. -/
def cells (c : Chart) : Array Char := c.runs.foldl addRun #[]

end Chart

/-- The character with a number, if there is one. -/
def cellAt? (cells : Array Char) (n : Nat) : Option Char :=
  cells[n]?.filter (· != replacement)

/-- The number of the place that two bytes name in rows of 94, of which the first row and the first
place have a byte. -/
def gridNumber? (first row place : Nat) : Option Nat :=
  if first ≤ row && row < first + 94 && first ≤ place && place < first + 94 then
    some ((row - first) * 94 + (place - first))
  else none

end ClientScribe.Source
