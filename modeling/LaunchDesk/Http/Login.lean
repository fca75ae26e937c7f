import LaunchDesk.Http.Host
import LaunchDesk.Text.Base64

/-!
# Logins

What stands in front of the last at sign of an authority may name a user, and behind a colon the
password. Requests to such an address show it as credentials of their own.

## Implementation notes

Both parts may have percent escapes. A name that is not UTF-8 without them is nobody, and such a
password is none.
-/

namespace LaunchDesk.Http

open Text

/-- A user and the password, which is empty if there is none. -/
structure Login where
  /-- The name of the user. -/
  name : String
  /-- The password. -/
  password : String
  deriving DecidableEq, Repr

namespace Login

/-- The name and the password of a user, as they are spelled. -/
def split (userInfo : List Char) : List Char × List Char :=
  (userInfo.takeWhile (· ≠ ':'), (userInfo.dropWhile (· ≠ ':')).drop 1)

/-- The login that stands in an authority, if there is one. -/
def read? (userInfo : List Char) : Option Login :=
  let (name, password) := split userInfo
  match ofUtf8? (unescape name) with
  | none => none
  | some name =>
      let login : Login := ⟨name, (ofUtf8? (unescape password)).getD ""⟩
      if login = ⟨"", ""⟩ then none else some login

/-- The credentials of a login. -/
def credentials (login : Login) : String :=
  "Basic " ++ String.ofList (base64 (utf8 (login.name ++ ":" ++ login.password)))

end Login

end LaunchDesk.Http
