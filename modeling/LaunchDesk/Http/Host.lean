import LaunchDesk.Decimal.Numeral
import LaunchDesk.Http.HostName
import LaunchDesk.Text.Hex
import LaunchDesk.Text.Split
import LaunchDesk.Text.Utf8

/-!
# Hosts

The host in a web address: a name, four bytes, or eight groups of 16 bits in brackets. Each host
has one spelling here, whatever it was written like.
-/

namespace LaunchDesk.Http

open Text Decimal

/-- Text with all percent escapes undone. -/
def unescape : List Char → List UInt8
  | '%' :: a :: b :: rest =>
      match hexDigit? a, hexDigit? b with
      | some x, some y => UInt8.ofNat (16 * x + y) :: unescape rest
      | _, _ => utf8 "%" ++ unescape (a :: b :: rest)
  | c :: rest => utf8 (String.singleton c) ++ unescape rest
  | [] => []

/-- Characters that no host name has. -/
def barredFromNames (c : Char) : Bool :=
  c.toNat ≤ 0x20 || c.toNat == 0x7F || "#%/:<>?@[\\]^|".toList.contains c

/-- The number that digits of some base show. -/
def numberIn? (base : Nat) (digits : List Char) : Option Nat :=
  digits.foldlM (fun n c => do
    let d ← hexDigit? c
    if d < base then some (n * base + d) else none) 0

/-- The number in a part of a numeric host: hexadecimal behind "0x", octal behind a zero, else
decimal. -/
def partNumber? : List Char → Option Nat
  | [] => none
  | '0' :: 'x' :: digits => numberIn? 16 digits
  | '0' :: digits => numberIn? 8 digits
  | digits => numberIn? 10 digits

/-- The parts of a host name; a dot at the end is not followed by a part. -/
def hostParts (name : List Char) : List (List Char) :=
  let parts := splitAt '.' name
  if parts.length > 1 && parts.getLast? == some [] then parts.dropLast else parts

/-- Whether the last part of a host name is a number, so that it can only be a numeric host. -/
def endsInNumber (name : List Char) : Bool :=
  match (hostParts name).getLast? with
  | none => false
  | some part => (!part.isEmpty && part.all Char.isDigit) || (partNumber? part).isSome

/-- The 32 bits of a numeric host. -/
def fourBytes? (name : List Char) : Option Nat := do
  let numbers ← (hostParts name).mapM partNumber?
  let last ← numbers.getLast?
  let initial := numbers.dropLast
  if numbers.length ≤ 4 ∧ initial.all (· < 256) ∧ last < Nat.pow 256 (5 - numbers.length) then
    some (initial.foldr (fun n acc => n * 0x1000000 + acc / 0x100) 0 + last)
  else none

/-- Four bytes as decimal numbers with dots between them. -/
def fourBytesText (n : Nat) : List Char :=
  List.intercalate ['.'] ([n / 0x1000000, n / 0x10000 % 0x100, n / 0x100 % 0x100,
    n % 0x100].map fun b => (natText b).toList)

/-- A group of 16 bits. -/
def group? (digits : List Char) : Option Nat :=
  if 1 ≤ digits.length ∧ digits.length ≤ 4 then numberIn? 16 digits else none

/-- A byte in decimal digits without a leading zero. -/
def decimalByte? (digits : List Char) : Option Nat := do
  let n ← numberIn? 10 digits
  if n < 256 ∧ (natText n).toList = digits then some n else none

/-- The last groups of an address in brackets, where four bytes may stand for two groups. -/
def lastGroups? (part : List Char) : Option (List Nat) :=
  if part.contains '.' then do
    match ← (splitAt '.' part).mapM decimalByte? with
    | [a, b, c, d] => some [256 * a + b, 256 * c + d]
    | _ => none
  else (group? part).map ([·])

/-- Some groups with colons between them. -/
def groups? (s : List Char) (last : Bool) : Option (List Nat) :=
  if s.isEmpty then some []
  else do
    let parts := splitAt ':' s
    let initial ← parts.dropLast.mapM group?
    let final ← parts.getLast?
    return initial ++ (← if last then lastGroups? final else (group? final).map ([·]))

/-- What stands before and behind the first pair of colons. -/
def atColonPair : List Char → Option (List Char × List Char)
  | [] => none
  | ':' :: ':' :: rest => some ([], rest)
  | c :: rest => (atColonPair rest).map fun (before, behind) => (c :: before, behind)

/-- The eight groups of an address in brackets; a pair of colons stands for zeros. -/
def eightGroups? (s : List Char) : Option (List Nat) :=
  match atColonPair s with
  | none => do
      let groups ← groups? s true
      if groups.length = 8 then some groups else none
  | some (before, behind) => do
      let before ← groups? before false
      let behind ← groups? behind true
      let missing := 8 - (before.length + behind.length)
      if missing = 0 then none else some (before ++ List.replicate missing 0 ++ behind)

/-- The number of zeros at the start of a list. -/
def leadingZeros (groups : List Nat) : Nat :=
  (groups.takeWhile (· == 0)).length

/-- The place of the first longest run of zeros. -/
def longestZeros (groups : List Nat) : Nat :=
  (List.range groups.length).foldl (fun best i =>
    if leadingZeros (groups.drop i) > leadingZeros (groups.drop best) then i else best) 0

/-- Eight groups as text; the first longest run of at least two zeros becomes a pair of colons. -/
def eightGroupsText (groups : List Nat) : List Char :=
  let join (gs : List Nat) := List.intercalate [':'] (gs.map hexDigits)
  let i := longestZeros groups
  let n := leadingZeros (groups.drop i)
  if n < 2 then join groups
  else join (groups.take i) ++ [':', ':'] ++ join (groups.drop (i + n))

/-- The spelling of a host, if it is one. -/
def host? : List Char → Option (List Char)
  | '[' :: rest =>
      if rest.getLast? = some ']' then
        (eightGroups? rest.dropLast).map fun groups => '[' :: eightGroupsText groups ++ [']']
      else none
  | s => do
      let name ← HostName.ascii? (← ofUtf8? (unescape s))
      if name.isEmpty || name.any barredFromNames then none
      else if endsInNumber name then (fourBytes? name).map fourBytesText
      else some name

end LaunchDesk.Http
