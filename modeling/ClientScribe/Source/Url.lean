import ClientScribe.Document.Access
import ClientScribe.Text.Case
import ClientScribe.Text.Digit

/-!
# Addresses of documents

A document may be named by an address with the scheme `http` or `https`. Of an address the scheme,
the authority and the path matter. The authority may hold a host in brackets, which has to be an
address of the sixth version of the internet protocol or of a later one, and no character that
stands for a delimiter.
-/

namespace ClientScribe.Source

open Document (misfit)

/-- The parts of an address that matter. -/
structure Url where
  scheme : Text
  authority : Text
  path : Text

/-- Whether a source is an address rather than a file. Only ASCII letters have these small forms. -/
def isUrl (source : Text) : Bool :=
  let s := source.map (·.mapChar Char.toLower)
  (Text.ofString "http://").isPrefixOf s || (Text.ofString "https://").isPrefixOf s

/-- The parts of a text between the occurrences of a character. -/
def partsAt (mark : Char) : List Char → List (List Char)
  | [] => [[]]
  | c :: rest =>
    if c == mark then [] :: partsAt mark rest
    else match partsAt mark rest with
      | part :: more => (c :: part) :: more
      | [] => [[c]]

/-- Whether a text is one of the four numbers of an address of the fourth version. -/
def isOctet (s : List Char) : Bool :=
  !s.isEmpty && s.length ≤ 3 && s.all Char.isDigit && !(1 < s.length && s.head? == some '0') &&
    s.foldl (fun n c => 10 * n + (c.toNat - 48)) 0 ≤ 255

/-- Whether a text is an address of the fourth version. -/
def isVersion4 (s : List Char) : Bool :=
  let parts := partsAt '.' s
  parts.length == 4 && parts.all isOctet

/-- Whether a text is one of the eight numbers of an address of the sixth version. -/
def isGroup (s : List Char) : Bool :=
  !s.isEmpty && s.length ≤ 4 && s.all fun c => (Text.hexValue? c).isSome

/-- Whether parts between colons are an address of the sixth version: eight groups, or fewer groups
with one gap, which may also stand at either end. -/
def areGroups (parts : List (List Char)) : Bool :=
  let inner := (parts.drop 1).dropLast
  match inner.filter (·.isEmpty) with
  | [] => parts.length == 8 && parts.all isGroup
  | [_] =>
    let before := parts.take (1 + (inner.takeWhile (!·.isEmpty)).length)
    let after := parts.drop (before.length + 1)
    let before := if before == [[]] then [] else before
    let after := if after == [[]] then [] else after
    before.all isGroup && after.all isGroup && before.length + after.length < 8
  | _ => false

/-- Whether a text is an address of the sixth version; its end may be one of the fourth, and a zone
may follow it. -/
def isVersion6 (s : List Char) : Bool :=
  let address := s.takeWhile (· != '%')
  let zone := s.dropWhile (· != '%')
  let zoneFits :=
    match zone with
    | [] => true
    | _ :: zone => !zone.isEmpty && !zone.contains '%'
  let parts := partsAt ':' address
  let groups? :=
    match parts.getLast? with
    | some last =>
      if last.contains '.' then
        if isVersion4 last then some (parts.dropLast ++ [['0'], ['0']]) else none
      else some parts
    | none => none
  zoneFits && 3 ≤ parts.length && !s.contains '/' &&
    match groups? with
    | some groups => areGroups groups
    | none => false

/-- Whether a host in brackets is an address of the sixth version, or one of a later version: `v`, a
hexadecimal number, a dot, and anything on one line. -/
def isBracketHost (s : List Char) : Bool :=
  match s with
  | 'v' :: rest =>
    let version := rest.takeWhile fun c => (Text.hexValue? c).isSome
    match rest.dropWhile fun c => (Text.hexValue? c).isSome with
    | '.' :: tail => !version.isEmpty && !tail.isEmpty && tail.all (· != '\n')
    | _ => false
  | s => isVersion6 s

/-- The characters that stand for a text with a delimiter in it. -/
def delimiterForms : List Nat :=
  [0x2047, 0x2048, 0x2049, 0x2100, 0x2101, 0x2105, 0x2106, 0x2A74, 0xFE13, 0xFE16, 0xFE55, 0xFE56,
    0xFE5F, 0xFE6B, 0xFF03, 0xFF0F, 0xFF1A, 0xFF1F, 0xFF20]

/-- Whether an authority can be used. -/
def isAuthority (s : List Char) : Bool :=
  (s.contains '[' == s.contains ']') &&
    (!s.contains '[' ||
      isBracketHost (((s.dropWhile (· != '[')).drop 1).takeWhile (· != ']'))) &&
    s.all fun c => !delimiterForms.contains c.toNat

/-- The characters of a text, with one that is no delimiter for every half. -/
def charsOf (s : Text) : List Char :=
  s.map fun c => c.char?.getD '_'

/-- What a scheme consists of. -/
def isSchemeChar (c : Char) : Bool :=
  c.isAlphanum || c == '+' || c == '-' || c == '.'

/-- The characters that end an authority. -/
def endsAuthority (c : Char) : Bool :=
  c == '/' || c == '?' || c == '#'

/-- The authority at the start of a text, behind two slashes, and what follows it. -/
def takeAuthority : Text → Text × Text
  | .char '/' :: .char '/' :: rest =>
    (rest.takeWhile (!·.satisfies endsAuthority), rest.dropWhile (!·.satisfies endsAuthority))
  | rest => ([], rest)

/-- The parts of an address. Line ends and tabs are passed over, the scheme is in small letters, the
authority stands behind two slashes up to the next delimiter, and the path behind it up to a query
or a fragment. -/
def Url.ofText (text : Text) : Result Url :=
  let s := (text.dropWhile (·.satisfies (·.toNat ≤ 32))).filter
    (!·.satisfies fun c => c == '\t' || c == '\r' || c == '\n')
  let front := s.takeWhile (· != .char ':')
  let hasScheme :=
    front.length < s.length && front.head?.any (·.satisfies Char.isAlpha) &&
      front.all (·.satisfies isSchemeChar)
  let scheme := if hasScheme then front.map (·.mapChar Char.toLower) else []
  let rest := if hasScheme then s.drop (front.length + 1) else s
  let (authority, rest) := takeAuthority rest
  if isAuthority (charsOf authority) then
    .ok ⟨scheme, authority, (rest.takeWhile (· != .char '#')).takeWhile (· != .char '?')⟩
  else misfit

end ClientScribe.Source
