import LaunchDesk.Text.Blank

/-!
# HTTP messages

A request and a response, as far as a client of the platform deals with them.

## Implementation notes

A response is the last one to a request: it points to no other address, so nothing follows it.
-/

namespace LaunchDesk.Http

/-- The value of a header field as it is received: blanks around it are no part of it. -/
def fieldValue (s : String) : String :=
  String.ofList (Text.trimBy (fun c => c == ' ' || c == '\t') s.toList)

/-- A request that sends a text. -/
structure Request where
  /-- What is asked for: to post the text. -/
  method : String
  /-- The path on the server. -/
  path : String
  /-- The credentials, one after the other. -/
  credentials : List String
  /-- The type of the text. -/
  contentType : String
  /-- The text. -/
  body : String
  deriving DecidableEq, Repr

/-- The credentials as a server joins them, if there are any. -/
def Request.authorization (r : Request) : Option String :=
  if r.credentials.isEmpty then none else some (String.intercalate ", " r.credentials)

/-- A response with which an exchange ends: it does not refer to another address. -/
structure Response where
  /-- The status code. -/
  status : Nat
  /-- The declared type of the body. -/
  contentType : Option String
  /-- The bytes that arrived. -/
  body : List UInt8
  /-- Whether all announced bytes arrived. -/
  complete : Bool
  deriving DecidableEq, Repr

/-- What comes back for a request: a response or nothing. -/
abbrev Reply := Option Response

namespace Response

/-- Whether the status says that the request was granted. -/
def granted (r : Response) : Bool :=
  200 ≤ r.status && r.status < 300

/-- Whether a response of this status comes without a body, whatever is sent behind it. -/
def bodiless (r : Response) : Bool :=
  r.status == 204 || r.status == 304

/-- The body, if it is all there. -/
def content? (r : Response) : Option (List UInt8) :=
  if r.bodiless then some []
  else if r.complete then some r.body
  else none

/-- A body arrives with a response: all the bytes of a complete one, and none where the status
allows for none. -/
def Arrives (r : Response) (body : List UInt8) : Prop :=
  if r.status = 204 ∨ r.status = 304 then body = [] else r.complete = true ∧ body = r.body

end Response

end LaunchDesk.Http
