/-!
# Base 64

Bytes written with 64 printable characters, three bytes in four of them, filled up with equals
signs.
-/

namespace AdminGate.Text

/-- The character for a number below 64. -/
def base64Digit (value : Nat) : Char :=
  if value < 26 then Char.ofNat (65 + value)
  else if value < 52 then Char.ofNat (71 + value)
  else if value < 62 then Char.ofNat (value - 4)
  else if value = 62 then '+'
  else '/'

def base64 : List UInt8 → List Char
  | [] => []
  | [first] =>
      let bits := first.toNat * 16
      [base64Digit (bits / 64), base64Digit (bits % 64), '=', '=']
  | [first, second] =>
      let bits := (first.toNat * 256 + second.toNat) * 4
      [base64Digit (bits / 4096), base64Digit (bits / 64 % 64), base64Digit (bits % 64), '=']
  | first :: second :: third :: rest =>
      let bits := (first.toNat * 256 + second.toNat) * 256 + third.toNat
      base64Digit (bits / 262144) :: base64Digit (bits / 4096 % 64) ::
        base64Digit (bits / 64 % 64) :: base64Digit (bits % 64) :: base64 rest

end AdminGate.Text
