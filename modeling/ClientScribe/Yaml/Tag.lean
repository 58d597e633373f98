/-!
# Tags of nodes

Every node of a YAML document has a tag that says what it stands for. A plain scalar without a tag
of its own gets one by its shape; this module holds the shapes.
-/

namespace ClientScribe.Yaml

/-- What a node stands for. -/
inductive Tag where
  | null
  | bool
  | int
  | float
  | binary
  | timestamp
  | str
  | seq
  | map
  | omap
  | pairs
  | set
  /-- The key of entries that are taken over from other mappings. -/
  | merge
  /-- The key of the value that a mapping has as a scalar. -/
  | value
  | unknown
  deriving DecidableEq

/-- The start of the addresses of all known tags. -/
def Tag.addressStart : String := "tag:yaml.org,2002:"

/-- The known tags by name. -/
def Tag.known : List (String × Tag) :=
  [("null", .null), ("bool", .bool), ("int", .int), ("float", .float), ("binary", .binary),
    ("timestamp", .timestamp), ("str", .str), ("seq", .seq), ("map", .map), ("omap", .omap),
    ("pairs", .pairs), ("set", .set), ("merge", .merge), ("value", .value)]

/-- The tag with an address. -/
def Tag.ofAddress (address : String) : Tag :=
  match Tag.known.find? fun t => Tag.addressStart ++ t.1 == address with
  | some t => t.2
  | none => .unknown

namespace Shape

/-- A digit or an underscore. -/
def isDigitOrBar (c : Char) : Bool := c.isDigit || c == '_'

/-- The text without a sign in front. -/
def unsigned : List Char → List Char
  | '+' :: s => s
  | '-' :: s => s
  | s => s

/-- Whether a text consists of characters of a class, at least one. -/
def some_ (p : Char → Bool) (s : List Char) : Bool := !s.isEmpty && s.all p

/-- Whether a text is nothing, or an exponent with sign and digits. -/
def isExponentOrNone : List Char → Bool
  | [] => true
  | e :: sign :: digits =>
    (e == 'e' || e == 'E') && (sign == '+' || sign == '-') && some_ Char.isDigit digits
  | _ => false

/-- Whether a text is one or more groups of a colon and a number below sixty. -/
def isSexagesimalTail : List Char → Bool
  | [] => false
  | [':', c] => c.isDigit
  | ':' :: c :: d :: rest =>
    if d == ':' then c.isDigit && isSexagesimalTail (d :: rest)
    else '0' ≤ c && c ≤ '5' && d.isDigit && (rest.isEmpty || isSexagesimalTail rest)
  | _ => false

/-- Whether a text is a whole number in one of the bases: two, eight, ten, sixteen or sixty. -/
def isInt (s : List Char) : Bool :=
  match unsigned s with
  | '0' :: 'b' :: rest => some_ (fun c => c == '0' || c == '1' || c == '_') rest
  | '0' :: 'x' :: rest =>
    some_ (fun c => c.isDigit || ('a' ≤ c && c ≤ 'f') || ('A' ≤ c && c ≤ 'F') || c == '_') rest
  | '0' :: rest => rest.all fun c => ('0' ≤ c && c ≤ '7') || c == '_'
  | c :: rest =>
    c.isDigit && (rest.all isDigitOrBar || isSexagesimalTail (rest.dropWhile isDigitOrBar))
  | [] => false

/-- Whether a text is a number with a point: in base ten with an optional exponent, or in base
sixty. -/
def isPointed (s : List Char) : Bool :=
  match unsigned s with
  | c :: rest =>
    c.isDigit &&
      (let tail := rest.dropWhile isDigitOrBar
      match tail with
      | '.' :: fraction => isExponentOrNone (fraction.dropWhile isDigitOrBar)
      | tail =>
        isSexagesimalTail (tail.takeWhile (· != '.')) &&
          match tail.dropWhile (· != '.') with
          | '.' :: fraction => fraction.all isDigitOrBar
          | _ => false)
  | [] => false

/-- Whether a text is a float: a number with a point, or a word for infinity or for not a number. -/
def isFloat (s : List Char) : Bool :=
  isPointed s ||
    (match s with
    | '.' :: c :: rest => c.isDigit && isExponentOrNone (rest.dropWhile isDigitOrBar)
    | _ => false) ||
    [".inf", ".Inf", ".INF"].contains (String.ofList (unsigned s)) ||
    [".nan", ".NaN", ".NAN"].contains (String.ofList s)

/-- The words for true and false. -/
def boolWords : List String :=
  ["yes", "Yes", "YES", "no", "No", "NO", "true", "True", "TRUE", "false", "False", "FALSE",
    "on", "On", "ON", "off", "Off", "OFF"]

/-- Whether a text is a day with two digits for month and day. -/
def isDay : List Char → Bool
  | [y1, y2, y3, y4, '-', m1, m2, '-', d1, d2] =>
    [y1, y2, y3, y4, m1, m2, d1, d2].all Char.isDigit
  | _ => false

end Shape

end ClientScribe.Yaml
