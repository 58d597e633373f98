import ClientScribe.Source.Url

/-!
# Derived fields of a description

The client needs to know the host, the schemes, the base path and the content types of its service.
What a description leaves out is filled in, from the address it came from if it has one.
-/

namespace ClientScribe.Api

open Document (Value Entries lookup put erase misfit)
open Source (Url isUrl)

/-- The base path without a slash at its end. -/
def withoutLastSlash (s : Text) : Text :=
  if s.getLast? == some (.char '/') then s.dropLast else s

/-- The host and the scheme of a description's address, or those of the local service. -/
def origin (source : Option Text) : Result (Text × Text) :=
  match source.filter isUrl with
  | some source => (Url.ofText source).map fun url => (url.authority, url.scheme)
  | none => .ok ("localhost", "http")

/-- The entries with a key set unless it is there. -/
def putNew (k : Text) (v : Value) (entries : Entries) : Entries :=
  if (lookup k entries).isSome then entries else put (.str k) v entries

/-- The entries with a key set unless it is there with a value that counts as given. -/
def putMissing (k : Text) (v : Value) (entries : Entries) : Entries :=
  if ((lookup k entries).getD .null).isTrue then entries else put (.str k) v entries

/-- The entries with one key renamed, with another value if the old one does not count as given. -/
def rename (old new : Text) (other : Value) (entries : Entries) : Entries :=
  let v := ((lookup old entries).getD .null).orElse other
  put (.str new) v (erase old entries)

/-- The fields of a description with the derived ones. -/
def derivedFields (entries : Entries) (source : Option Text) : Result Entries := do
  let basePath ← (((lookup "basePath" entries).getD .null).orElse (.str [])).asText
  let entries := put (.str "basePath") (.str (withoutLastSlash basePath)) entries
  let (host, scheme) ← origin source
  let entries := putNew "host" (.str host) entries
  let entries := putMissing "schemes" (.list [.str scheme]) entries
  let entries := rename "produces" "accepts" (.list [.str "application/json"]) entries
  return rename "consumes" "contentTypes" (.list []) entries

/-- The description with its derived fields. A description that contains itself has them wherever it
comes up. -/
def withDerivedFields (document : Value) (source : Option Text) : Result Value := do
  match document with
  | .looped ring id =>
    let entries ← ((ring.lookup id).getD .null).entries
    let derived ← derivedFields entries source
    return .looped (ring.map fun e => if e.1 == id then (id, .map derived) else e) id
  | document => return .map (← derivedFields (← document.entries) source)

end ClientScribe.Api
