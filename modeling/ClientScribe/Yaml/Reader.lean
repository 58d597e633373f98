import ClientScribe.Yaml.Cell.OfNodes
import ClientScribe.Yaml.Cell.ToValue
import ClientScribe.Yaml.Node.OfTokens
import ClientScribe.Yaml.Token.Lexer

/-!
# Reading YAML documents

The text of a document becomes a row of tokens, these become nodes, the nodes get cells, and the
cells make a value.
-/

namespace ClientScribe.Yaml

open Document (ReadFault Value)

/-- The characters that a text may hold. -/
def isAllowed (c : Char) : Bool :=
  let n := c.toNat
  n == 9 || n == 10 || n == 13 || (32 ≤ n && n ≤ 126) || n == 0x85 || (0xA0 ≤ n && n ≤ 0xD7FF) ||
    (0xE000 ≤ n && n ≤ 0xFFFD) || 0x10000 ≤ n

/-- Reads a text; an empty document is null. `depth` is how deeply its collections may be nested. -/
def read (depth : Nat) (s : List Char) : Except ReadFault Value := do
  if !s.all isAllowed then .error .malformed
  else
    match ← Graph.ofTokens? depth (tokens s) with
    | none => return .null
    | some g => return (← g.cells).value g.root

end ClientScribe.Yaml
