import AdminGate.Text.Digit
import AdminGate.Text.Parts

/-!
# Internet addresses

Which texts are addresses of version 4 (four decimal octets without leading zeros) and of version 6
(eight groups of hexadecimal digits, one run of zero groups left out as `::`, the last two groups
possibly written as an address of version 4, a zone after a percent sign).
-/

namespace AdminGate.Http

/-- A number up to 255 in up to three digits, no zero in front of another digit. -/
def isOctet (input : List Char) : Bool :=
  !input.isEmpty && input.all Char.isDigit && input.length ≤ 3 &&
    (input == ['0'] || input.head? != some '0') &&
    Text.digitsValue 0 (input.filterMap Text.basicDigit?) ≤ 255

def isIpv4 (input : List Char) : Bool :=
  let octets := Text.splitAt '.' input
  octets.length == 4 && octets.all isOctet

/-- A group of one to four hexadecimal digits. -/
def isGroup (input : List Char) : Bool :=
  !input.isEmpty && input.length ≤ 4 && input.all fun digit => (Text.hexDigit? digit).isSome

/-- The places of empty groups between the first and the last one. -/
def emptyPlaces (groups : List (List Char)) : List Nat :=
  ((List.range groups.length).drop 1).dropLast.filter fun place => groups[place]? == some []

/-- Whether the groups of an address, a final address of version 4 counted as two groups, are
those of version 6. -/
def areGroups (groups : List (List Char)) : Bool :=
  if 9 < groups.length then false
  else
    match emptyPlaces groups with
    | [] => groups.length == 8 && groups.all isGroup
    | [place] =>
        let high := groups.take place
        let low := groups.drop (place + 1)
        let highGroups := if high.head? == some [] then high.drop 1 else high
        let lowGroups := if low.getLast? == some [] then low.dropLast else low
        (high.head? != some [] || highGroups.isEmpty) &&
          (low.getLast? != some [] || lowGroups.isEmpty) &&
          highGroups.length + lowGroups.length < 8 &&
          highGroups.all isGroup && lowGroups.all isGroup
    | _ => false

/-- An address of version 6 without a zone. -/
def isIpv6Plain (input : List Char) : Bool :=
  let groups := Text.splitAt ':' input
  if groups.length < 3 then false
  else
    match groups.getLast? with
    | some last =>
        if last.contains '.' then
          isIpv4 last && areGroups (groups.dropLast ++ [['0'], ['0']])
        else areGroups groups
    | none => false

/-- An address of version 6: the zone is not empty and has no second percent sign. -/
def isIpv6 (input : List Char) : Bool :=
  let plain := input.takeWhile (· != '%')
  !input.contains '/' && isIpv6Plain plain &&
    match input.drop plain.length with
    | [] => true
    | _ :: zone => !zone.isEmpty && !zone.contains '%'

end AdminGate.Http
