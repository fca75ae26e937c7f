import LaunchDesk.Http.Url

/-!
# Addresses of other schemes

An address that is well formed, but of a scheme that is not one of the web. No request can be sent
to it.

## Implementation notes

Some schemes spell their addresses like those of the web, files have addresses with an optional
host, and all others have a free form: with a host behind two slashes, with a path alone, or with a
text that is left as it is.
-/

namespace LaunchDesk.Http

open Text Decimal

/-- An address of another scheme. -/
structure ForeignUrl where
  /-- Its text. -/
  text : String
  /-- Whether it has a host. -/
  hasHost : Bool
  deriving DecidableEq, Repr

namespace ForeignUrl

/-- The schemes whose addresses are spelled like those of the web, and their ports. -/
def webLikeSchemes : List (String × Nat) :=
  [("ftp", 21), ("ws", 80), ("wss", 443)]

/-- The text of a port behind a host. -/
def portText (port : Nat) : List Char :=
  ':' :: (natText port).toList

/-- An address that is spelled like one of the web, behind its slashes. -/
def ofWebLike? (scheme : String) (usual : Nat) (s : List Char) : Option ForeignUrl := do
  let (authority, s) := Url.splitAuthority Url.isSlash s
  let (host, digits) := Url.hostAndPort authority
  let host ← host? host
  let port ← Url.port? usual digits
  let rest := Url.Rest.of s
  return ⟨String.ofList (scheme.toList ++ "://".toList ++ Url.userText (Url.userInfoOf authority) ++
    host ++ (if port = usual then [] else portText port) ++ Url.path rest.path ++
    Url.escape "\"'<>".toList rest.query ++ Url.fragmentText rest.fragment), true⟩

/-- The host of a file, which may be missing, and what stands behind it. -/
def splitFile? (s : List Char) : Option (List Char × List Char) :=
  match s with
  | a :: b :: rest =>
      if Url.isSlash a && Url.isSlash b then do
        let (name, rest) := Url.splitAuthority Url.isSlash rest
        let host ← if name.isEmpty then some [] else host? name
        return (if host = "localhost".toList then [] else host, rest)
      else some ([], s)
  | _ => some ([], s)

/-- The address of a file behind its colon. -/
def ofFile? (s : List Char) : Option ForeignUrl := do
  let (host, s) ← splitFile? s
  let rest := Url.Rest.of s
  let path := if rest.path.head?.any Url.isSlash then rest.path else '/' :: rest.path
  return ⟨String.ofList ("file://".toList ++ host ++ Url.path path ++
    Url.escape "\"'<>".toList rest.query ++ Url.fragmentText rest.fragment), !host.isEmpty⟩

/-- Characters that no host of an address of free form has. -/
def barredFromFreeHosts (c : Char) : Bool :=
  c == '\x00' || " #/:<>?@[\\]^|".toList.contains c

/-- The host of an address of free form. -/
def freeHost? : List Char → Option (List Char)
  | '[' :: rest => host? ('[' :: rest)
  | s => if s.any barredFromFreeHosts then none else some (Url.escapeControls s)

/-- The host of an address of free form, with its port. A missing host has no port and no user. -/
def freeAuthority? (authority : List Char) : Option (List Char) := do
  let (host, digits) := Url.hostAndPort authority
  let host' ← freeHost? host
  if host'.isEmpty then
    if authority.isEmpty || authority == ":@".toList then some [] else none
  else if digits.isEmpty then some host'
  else return host' ++ portText (← Url.port? 0 digits)

/-- A path of free form. -/
def freePath (s : List Char) : List Char :=
  if s.isEmpty then [] else Url.pathOf (splitAt '/' (s.drop 1))

/-- The query and the fragment of an address of free form. -/
def freeEnd (rest : Url.Rest) : List Char :=
  Url.escape "\"<>".toList rest.query ++ Url.fragmentText rest.fragment

/-- An address of free form behind its colon. -/
def ofFree? (scheme : String) (s : List Char) : Option ForeignUrl :=
  let start := scheme.toList ++ [':']
  match s with
  | '/' :: '/' :: s => do
      let (authority, s) := Url.splitAuthority (· == '/') s
      let host ← freeAuthority? authority
      let rest := Url.Rest.of s
      let user := Url.userText (Url.userInfoOf authority)
      return ⟨String.ofList (start ++ "//".toList ++ user ++ host ++ freePath rest.path ++
        freeEnd rest), !host.isEmpty⟩
  | '/' :: _ =>
      let rest := Url.Rest.of s
      let path := freePath rest.path
      let path := if "//".toList.isPrefixOf path then "/.".toList ++ path else path
      some ⟨String.ofList (start ++ path ++ freeEnd rest), false⟩
  | _ =>
      let rest := Url.Rest.of s
      some ⟨String.ofList (start ++ Url.escapeControls rest.path ++ freeEnd rest), false⟩

/-- The address of another scheme that a text is, if it is one. -/
def parse? (s : String) : Option ForeignUrl := do
  let (scheme, rest) ← Url.splitScheme? (Url.cleaned s)
  if scheme = "http" ∨ scheme = "https" then none
  else if scheme = "file" then ofFile? rest
  else
    match webLikeSchemes.lookup scheme with
    | some usual => ofWebLike? scheme usual (rest.dropWhile Url.isSlash)
    | none => ofFree? scheme rest

end ForeignUrl

end LaunchDesk.Http
