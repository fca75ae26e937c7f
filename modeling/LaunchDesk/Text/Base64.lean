/-!
# Base64

Bytes as plain text. Three bytes become four signs of six bits each; at the end, equals signs stand
for what is missing to three bytes.
-/

namespace LaunchDesk.Text

/-- The sign of six bits: capital letters, small letters, digits, plus and slash. -/
def base64Char (n : Nat) : Char :=
  if n < 26 then Char.ofNat (65 + n)
  else if n < 52 then Char.ofNat (71 + n)
  else if n < 62 then Char.ofNat (n - 4)
  else if n = 62 then '+' else '/'

/-- The signs of a byte string. -/
def base64 : List UInt8 → List Char
  | a :: b :: c :: rest =>
      let bits := a.toNat * 0x10000 + b.toNat * 0x100 + c.toNat
      [base64Char (bits / 0x40000), base64Char (bits / 0x1000 % 64), base64Char (bits / 64 % 64),
        base64Char (bits % 64)] ++ base64 rest
  | [a, b] =>
      let bits := a.toNat * 0x400 + b.toNat * 4
      [base64Char (bits / 0x1000), base64Char (bits / 64 % 64), base64Char (bits % 64), '=']
  | [a] =>
      let bits := a.toNat * 16
      [base64Char (bits / 64), base64Char (bits % 64), '=', '=']
  | [] => []

end LaunchDesk.Text
