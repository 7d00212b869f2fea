import AdminGate.Json.Value
import AdminGate.Text.Ascii
import AdminGate.Text.Case

/-!
# Header fields

The header fields of a request in their order.  Names differing only in the case of their letters
are one name; it may stand several times, and then reading it joins the values.  `Headers.merge`
puts the fields of one request over the fields that every request carries.
-/

namespace AdminGate.Http

structure Header where
  name : String
  value : String
deriving DecidableEq, Repr

/-- The name without regard to case. -/
def Header.key (header : Header) : String :=
  Text.basicLowercased header.name

abbrev Headers := List Header

namespace Headers

/-- Whether names and values are all ASCII. -/
def isAscii (headers : Headers) : Bool :=
  headers.all fun header =>
    header.name.toList.all Text.isAscii && header.value.toList.all Text.isAscii

/-- The fields that a caller gives; their names and values must be ASCII. -/
def ofCaller? (pairs : Assoc String) : Except Text.NonAscii Headers :=
  pairs.mapM fun (name, value) => do
    Text.checkAscii name.toList
    Text.checkAscii value.toList
    return ⟨name, value⟩

/-- The values under a name, which is given in small letters. -/
def values (headers : Headers) (key : String) : List String :=
  (headers.filter fun header => header.key == key).map (·.value)

/-- Whether there is a field with a name, which is given in small letters. -/
def has (headers : Headers) (key : String) : Bool :=
  headers.any fun header => header.key == key

/-- The values under a name joined by commas.  A name outside ASCII cannot be looked up among
fields that are all ASCII. -/
def get? (headers : Headers) (name : String) : Except Text.NonAscii (Option String) := do
  let key := Text.lowercased name
  if headers.isAscii then Text.checkAscii key.toList
  let found := headers.values key
  return if found.isEmpty then none else some (", ".intercalate found)

/-- Give a name one value: the first field of that name is replaced, the others are dropped; a
name that is not there is added at the end. -/
def set : Headers → String → String → Headers
  | [], name, value => [⟨name, value⟩]
  | header :: rest, name, value =>
      if header.key == Text.basicLowercased name then
        ⟨name, value⟩ :: rest.filter fun other => other.key != Text.basicLowercased name
      else header :: set rest name value

/-- Put fields over default ones: a default gives way to every field of its name.  Names outside
ASCII cannot be compared with the defaults. -/
def merge (defaults given : Headers) : Except Text.NonAscii Headers := do
  let keys ← given.mapM fun header => do
    let key := Text.lowercased header.key
    Text.checkAscii key.toList
    return key
  return defaults.filter (fun header => !keys.contains header.key) ++ given

end Headers

end AdminGate.Http
