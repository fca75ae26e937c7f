import LaunchDesk.Http.Login
import LaunchDesk.Text.Blank

/-!
# Web addresses

An address as a server name, a target on that server, and a fragment, each in its only spelling.

## Implementation notes

Reading is lenient, as everywhere on the web: control characters at either end and line ends
anywhere are dropped, backslashes count as slashes, steps that stay or go up are made at once, and
characters that an address cannot have are escaped. An address without a scheme is none.

A login is taken out of an address and does not show in its text. What stands in its place and is no
login stays.
-/

namespace LaunchDesk.Http

open Text Decimal

/-- A server: whether it is spoken to in secret, its host, and its port. -/
structure Origin where
  /-- Whether it is spoken to in secret. -/
  secure : Bool
  /-- The host. -/
  host : List Char
  /-- The port. -/
  port : Nat
  deriving DecidableEq, Repr

/-- A web address. -/
structure Url where
  /-- The server. -/
  origin : Origin
  /-- What stands in front of the at sign, as it is spelled, or nothing. -/
  userInfo : List Char
  /-- The path and the query. -/
  target : List Char
  /-- The fragment with its mark, or nothing. -/
  fragment : List Char
  deriving DecidableEq, Repr

/-- The port of a server that names none. -/
def usualPort (secure : Bool) : Nat :=
  if secure then 443 else 80

namespace Origin

/-- The scheme with its slashes. -/
def scheme (o : Origin) : List Char :=
  (if o.secure then "https://" else "http://").toList

/-- The host, with the port if it is not the usual one. -/
def server (o : Origin) : List Char :=
  o.host ++ if o.port = usualPort o.secure then [] else ':' :: (natText o.port).toList

end Origin

namespace Url

/-- A byte as a percent escape. -/
def escapedByte (b : UInt8) : List Char :=
  ['%', (hexChar (b.toNat / 16)).toUpper, (hexChar (b.toNat % 16)).toUpper]

/-- A text in which some characters, and all that are not plain ASCII, are escaped. -/
def escape (barred : List Char) (s : List Char) : List Char :=
  s.flatMap fun c =>
    if c.toNat ≤ 0x20 || 0x7F ≤ c.toNat || barred.contains c then
      (utf8 (String.singleton c)).flatMap escapedByte
    else [c]

/-- A text in which only control characters, and all that are not plain ASCII, are escaped. -/
def escapeControls (s : List Char) : List Char :=
  s.flatMap fun c =>
    if c.toNat < 0x20 || 0x7F ≤ c.toNat then (utf8 (String.singleton c)).flatMap escapedByte
    else [c]

/-- What the text of an address has in front of the server: nothing of a login, and everything else
that stands there. -/
def userText (userInfo : List Char) : List Char :=
  match Login.read? userInfo with
  | some _ => []
  | none =>
      let (name, password) := Login.split userInfo
      let spelled := escape "\"#/:;<=>?@[\\]^`\x7b|\x7d".toList
      let colon := if password.isEmpty then [] else ':' :: spelled password
      if name.isEmpty && password.isEmpty then [] else spelled name ++ colon ++ ['@']

/-- The text of an address. -/
def text (url : Url) : String :=
  String.ofList (url.origin.scheme ++ userText url.userInfo ++ url.origin.server ++ url.target ++
    url.fragment)

/-- Whether a part of a path stays where it is. -/
def stays (part : List Char) : Bool :=
  [".", "%2e"].contains (String.ofList (part.map Char.toLower))

/-- Whether a part of a path goes up. -/
def goesUp (part : List Char) : Bool :=
  ["..", ".%2e", "%2e.", "%2e%2e"].contains (String.ofList (part.map Char.toLower))

/-- Make the steps of a path; at the end of a path, a step that leads nowhere leaves an empty
part. -/
def walk (done : List (List Char)) : List (List Char) → List (List Char)
  | [] => done
  | part :: rest =>
      let ending := if rest.isEmpty then [[]] else []
      if goesUp part then walk (done.dropLast ++ ending) rest
      else if stays part then walk (done ++ ending) rest
      else walk (done ++ [escape "\"#<>?`\x7b\x7d".toList part]) rest

/-- The path of the parts behind its first slash. -/
def pathOf (parts : List (List Char)) : List Char :=
  (walk [] parts).flatMap fun part => '/' :: part

/-- Whether a character separates the parts of a path. -/
def isSlash (c : Char) : Bool :=
  c == '/' || c == '\\'

/-- The path in its only spelling. -/
def path (s : List Char) : List Char :=
  pathOf (splitAt '/' ((s.map fun c => if c = '\\' then '/' else c).drop 1))

/-- The port that digits show; none are as good as the usual one. -/
def port? (usual : Nat) (digits : List Char) : Option Nat :=
  if digits.isEmpty then some usual
  else do
    let n ← numberIn? 10 digits
    if n < 65536 then some n else none

/-- A host and the digits behind its colon. -/
def splitPort (authority : List Char) : List Char × List Char :=
  match authority with
  | '[' :: _ =>
      let inside := authority.takeWhile (· ≠ ']')
      match authority.drop inside.length with
      | ']' :: ':' :: digits => (inside ++ [']'], digits)
      | rest => (inside ++ rest, [])
  | _ => (authority.takeWhile (· ≠ ':'), (authority.dropWhile (· ≠ ':')).drop 1)

/-- What stands in front of the last at sign of an authority. -/
def userInfoOf (authority : List Char) : List Char :=
  ((authority.reverse.dropWhile (· ≠ '@')).drop 1).reverse

/-- A host and the digits behind its colon, which stand behind the last at sign. -/
def hostAndPort (authority : List Char) : List Char × List Char :=
  splitPort (authority.reverse.takeWhile (· ≠ '@')).reverse

/-- The server that an authority names. -/
def origin? (secure : Bool) (authority : List Char) : Option Origin := do
  let (host, digits) := hostAndPort authority
  return ⟨secure, ← host? host, ← port? (usualPort secure) digits⟩

/-- What stands before the path, the query and the fragment, and the rest. -/
def splitAuthority (endsHost : Char → Bool) (s : List Char) : List Char × List Char :=
  let inside (c : Char) : Bool := !(endsHost c || c == '?' || c == '#')
  (s.takeWhile inside, s.dropWhile inside)

/-- What stands behind a server. -/
structure Rest where
  /-- The path. -/
  path : List Char
  /-- The query with its mark, or nothing. -/
  query : List Char
  /-- The fragment with its mark, or nothing. -/
  fragment : List Char

/-- A text cut in front of its query and its fragment. -/
def Rest.of (s : List Char) : Rest :=
  let path := s.takeWhile fun c => c ≠ '?' ∧ c ≠ '#'
  let s := s.drop path.length
  let query := s.takeWhile (· ≠ '#')
  ⟨path, query, s.drop query.length⟩

/-- A fragment in its only spelling. -/
def fragmentText (s : List Char) : List Char :=
  escape "\"<>`".toList s

/-- The address behind the slashes of its scheme. -/
def ofRest? (secure : Bool) (s : List Char) : Option Url := do
  let (authority, s) := splitAuthority isSlash s
  let rest := Rest.of s
  return ⟨← origin? secure authority, userInfoOf authority,
    path rest.path ++ escape "\"'<>".toList rest.query, fragmentText rest.fragment⟩

/-- A text without line ends and tabs, and without control characters and blanks at its ends. -/
def cleaned (s : String) : List Char :=
  (trimBy (fun c => c.toNat ≤ 0x20) s.toList).filter fun c => c ≠ '\t' ∧ c ≠ '\n' ∧ c ≠ '\r'

/-- Whether a character may be part of a scheme. -/
def isSchemeChar (c : Char) : Bool :=
  c.isAlphanum || c == '+' || c == '-' || c == '.'

/-- The scheme of an address, and what stands behind its colon. -/
def splitScheme? (s : List Char) : Option (String × List Char) :=
  let scheme := s.takeWhile isSchemeChar
  match scheme, s.drop scheme.length with
  | c :: _, ':' :: rest =>
      if c.isAlpha then some (String.ofList (scheme.map Char.toLower), rest) else none
  | _, _ => none

/-- The address that a text is, if it is one. -/
def parse? (s : String) : Option Url :=
  match splitScheme? (cleaned s) with
  | some ("http", rest) => ofRest? false (rest.dropWhile isSlash)
  | some ("https", rest) => ofRest? true (rest.dropWhile isSlash)
  | _ => none

/-- The credentials that an address brings along, which are those of its login. -/
def credentials (url : Url) : List String :=
  (Login.read? url.userInfo).toList.map Login.credentials

/-- The largest number of characters of an address in a request. -/
def longest : Nat := 65534

/-- Whether a request can be sent to an address, which has to be short and must not have certain
characters in the name of its server. -/
def isSendable (url : Url) : Bool :=
  url.text.length ≤ longest && !(url.origin.host.any "\"`\x7b\x7d".toList.contains)

end Url

end LaunchDesk.Http
