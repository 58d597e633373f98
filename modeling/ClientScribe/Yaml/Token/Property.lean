import ClientScribe.Text.Digit
import ClientScribe.Yaml.Cursor
import ClientScribe.Yaml.Token.Basic

/-!
# Anchors, tags and directives

The tokens that say something about a node or about a document: the name of an anchor or an alias,
the tag of a node, and the directives in front of a document.
-/

namespace ClientScribe.Yaml.Property

open Document (ReadFault)

/-- What anchors, handles and directive names consist of. -/
def isNameChar (c : Char) : Bool :=
  c.isAlphanum || c == '-' || c == '_'

/-- Goes on if the next character, or the end of the text, belongs to a class. -/
def expect (p : Option Char → Bool) (c : Cursor) : Except ReadFault Unit :=
  if p c.peek? then .ok () else .error .malformed

/-- Reads the name of an anchor or an alias behind its mark. -/
def anchorName (c : Cursor) : Except ReadFault (String × Cursor) := do
  let (name, c) := c.takeWhile isNameChar
  if name.isEmpty then .error .malformed
  expect (fun x => isBlankOrEnd x || x.any "?:,]\x7d%@\x60".toList.contains) c
  return (String.ofList name, c)

/-- The bytes of a row of percent escapes. -/
def escapedBytes : Nat → Cursor → Except ReadFault (List UInt8 × Cursor)
  | 0, c => .ok ([], c)
  | fuel + 1, c =>
    match c.rest with
    | '%' :: high :: low :: _ =>
      match Text.hexNumber? [high, low] with
      | none => .error .malformed
      | some n => do
        let (more, c) ← escapedBytes fuel (c.skip 3)
        return (n.toUInt8 :: more, c)
    | '%' :: _ => .error .malformed
    | _ => .ok ([], c)

/-- What addresses of tags consist of. -/
def isAddressChar (c : Char) : Bool :=
  c.isAlphanum || "-;/?:@&=+$,_.!~*'()[]%".toList.contains c

/-- Reads an address character by character; percent escapes write bytes of a character. -/
def addressBody : Nat → Cursor → Except ReadFault (List Char × Cursor)
  | 0, c => .ok ([], c)
  | fuel + 1, c =>
    match c.rest with
    | '%' :: _ => do
      let (bytes, c) ← escapedBytes (c.size + 1) c
      match String.fromUTF8? ⟨bytes.toArray⟩ with
      | none => .error .malformed
      | some part => do
        let (more, c) ← addressBody fuel c
        return (part.toList ++ more, c)
    | x :: _ =>
      if isAddressChar x then do
        let (more, c) ← addressBody fuel c.next
        return (x :: more, c)
      else .ok ([], c)
    | [] => .ok ([], c)

/-- Reads an address, which must not be empty. -/
def address (c : Cursor) : Except ReadFault (String × Cursor) := do
  if c.peek?.any isAddressChar then
    let (text, c) ← addressBody (c.size + 1) c
    return (String.ofList text, c)
  else .error .malformed

/-- Reads a handle: one mark alone, or a name between two marks. -/
def handle (c : Cursor) : Except ReadFault (String × Cursor) := do
  if c.peek? != some '!' then .error .malformed
  else if c.second? == some ' ' then return ("!", c.next)
  else
    let (name, after) := c.next.takeWhile isNameChar
    if after.peek? != some '!' then .error .malformed
    else return (String.ofList ('!' :: name ++ ['!']), after.next)

/-- Reads a tag. -/
def tag (c : Cursor) : Except ReadFault (Token × Cursor) := do
  let (token, c) ←
    (match c.second? with
    | some '<' => do
      let (suffix, c) ← address (c.skip 2)
      expect (· == some '>') c
      return (Token.tag none suffix, c.next)
    | second =>
      if isBlankOrEnd second then return (Token.tag none "!", c.next)
      else do
        let word := (c.rest.drop 1).takeWhile fun x => !(x == ' ' || isBreak x)
        let (handle, c) ← if word.contains '!' then handle c else pure ("!", c.next)
        let (suffix, c) ← address c
        return (Token.tag (some handle) suffix, c) :
      Except ReadFault (Token × Cursor))
  expect isSpaceOrEnd c
  return (token, c)

/-- The most digits of a number of a version. -/
def mostDigits : Nat := 4300

/-- Reads a number of a version. -/
def versionNumber (c : Cursor) : Except ReadFault (Nat × Cursor) :=
  let (digits, c) := c.takeWhile Char.isDigit
  if digits.isEmpty then .error .malformed
  else if mostDigits < digits.length then .error .impossible
  else .ok (digits.foldl (fun n x => 10 * n + (x.toNat - 48)) 0, c)

/-- Reads what a directive of a known name says. -/
def directiveBody (name : String) (c : Cursor) : Except ReadFault (Directive × Cursor) := do
  if name == "YAML" then
    let (major, c) ← versionNumber c.skipSpaces
    expect (· == some '.') c
    let (minor, c) ← versionNumber c.next
    expect isSpaceOrEnd c
    return (.version major minor, c)
  else if name == "TAG" then
    let (handle, c) ← handle c.skipSpaces
    expect (· == some ' ') c
    let (start, c) ← address c.skipSpaces
    expect isSpaceOrEnd c
    return (.tagHandle handle start, c)
  else return (.other, c.skipWhile (!isBreak ·))

/-- Reads a directive with the rest of its line. -/
def directive (c : Cursor) : Except ReadFault (Token × Cursor) := do
  let (name, c) := c.next.takeWhile isNameChar
  if name.isEmpty then .error .malformed
  expect isSpaceOrEnd c
  let (d, c) ← directiveBody (String.ofList name) c
  let c := c.skipSpaces.skipComment
  expect isBreakOrEnd c
  return (.directive d, c.takeBreak.2)

end ClientScribe.Yaml.Property
