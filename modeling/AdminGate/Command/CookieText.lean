import AdminGate.Json.Value
import AdminGate.Text.Blank
import AdminGate.Text.Parts

/-!
# Cookies given as one text

On the command line cookies are given in one text, entries of name and value with semicolons between
them.  An entry without an equals sign or without a name is ignored.
-/

namespace AdminGate.CookieText

/-- The name and value of an entry. -/
def entry? (input : List Char) : Option (String × String) :=
  let input := Text.trim input
  let name := input.takeWhile (· != '=')
  match input.drop name.length with
  | [] => none
  | _ :: value =>
      let name := Text.trim name
      if name.isEmpty then none
      else some (String.ofList name, String.ofList (Text.trim value))

/-- The cookies of a text, the last one of a name counting. -/
def parse (input : String) : Assoc String :=
  .ofPairs ((Text.splitAt ';' input.toList).filterMap entry?)

def render (cookies : Assoc String) : String :=
  "; ".intercalate (cookies.map fun (name, value) => name ++ "=" ++ value)

end AdminGate.CookieText
