import AdminGate.Text.Label
import AdminGate.Text.Parts
import AdminGate.Text.Punycode

/-!
# Host names outside ASCII

The form in which a host name with other characters than those of ASCII is asked for, and what such
a form stands for.  Every label is checked; one outside ASCII is written in Punycode behind a mark.
-/

namespace AdminGate.Http

/-- The mark of a label in Punycode. -/
def codedMark : List Char := "xn--".toList

def isLabelEnd (character : Char) : Bool :=
  ['.', '。', '．', '｡'].contains character

def labels (name : List Char) : List (List Char) :=
  Text.splitAt '.' (name.map fun character => if isLabelEnd character then '.' else character)

/-- Why a name does not stand for a host name. -/
inductive HostNameFault where
  | tooLong
  | nothingCoded
  | openCode
  | brokenCode
  | label (codes : List Nat) (fault : Text.LabelFault)
  | notCanonical
deriving DecidableEq, Repr

def HostNameFault.message : HostNameFault → String
  | tooLong => "Domain too long"
  | nothingCoded => "Malformed A-label, no Punycode eligible content found"
  | openCode => "A-label must not end with a hyphen"
  | brokenCode => "Invalid A-label"
  | label codes fault => fault.message codes
  | notCanonical => "A-label is not the canonical Punycode encoding of its U-label"

/-- What a label in Punycode stands for, its mark apart. -/
def codedText? (coded : List Char) : Except HostNameFault (List Char) :=
  if coded.isEmpty then .error .nothingCoded
  else if coded.getLast? == some '-' then .error .openCode
  else
    match Text.Punycode.decode? coded with
    | none => .error .brokenCode
    | some codes =>
        let text := codes.map Char.ofNat
        match Text.labelFault? text with
        | some fault => .error (.label codes fault)
        | none =>
            if Text.Punycode.encode text == coded then .ok text else .error .notCanonical

/-- What a label in ASCII stands for: itself, or what it says in Punycode. -/
def labelText? (label : List Char) : Except HostNameFault (List Char) :=
  let label := label.map Char.toLower
  if codedMark.isPrefixOf label then codedText? (label.drop codedMark.length)
  else
    match Text.labelFault? label with
    | some fault => .error (.label (label.map Char.toNat) fault)
    | none => .ok label

/-- The labels of a host name without the empty one that may stand at the end, and whether it
stands there. -/
def namedLabels (name : List Char) : List (List Char) × Bool :=
  let parts := labels name
  if parts.getLast?.any List.isEmpty then (parts.dropLast, true) else (parts, false)

/-- What a host name in ASCII stands for. -/
def hostNameText? (name : List Char) : Except HostNameFault (List Char) :=
  if 254 < name.length then .error .tooLong
  else
    let (named, endsOpen) := namedLabels name
    (named.mapM labelText?).map fun texts =>
      Text.joinWith '.' (if endsOpen then texts ++ [[]] else texts)

/-- The ASCII form of a label in lower case, if it is valid. -/
def labelForm? (label : List Char) : Option (List Char) := do
  let form ←
    if label.all fun character => character.toNat < 128 then
      (labelText? label).toOption.map fun _ => label
    else if (Text.labelFault? label).isNone then
      some (codedMark ++ Text.Punycode.encode label)
    else none
  if form.length ≤ 63 then some form else none

/-- The ASCII form of a host name in lower case, if all its labels are valid.  An empty label may
stand at the end, and makes room for its dot. -/
def hostNameForm? (name : List Char) : Option (List Char) := do
  let (named, endsOpen) := namedLabels name
  let forms ← named.mapM labelForm?
  let form := Text.joinWith '.' (if endsOpen then forms ++ [[]] else forms)
  let longest := if endsOpen then 254 else 253
  if name.length ≤ 254 && form.length ≤ longest then some form else none

end AdminGate.Http
