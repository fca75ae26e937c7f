import LaunchDesk.Folder
import LaunchDesk.Http.ForeignUrl
import LaunchDesk.Http.MediaType
import LaunchDesk.Job.Wire
import LaunchDesk.Program
import LaunchDesk.Text.Charset

/-!
# The client of the platform

Each call becomes at most one request, and the response to it becomes the answer to the call.

## Implementation notes

What is sent depends on the client, the files and the call alone, never on earlier calls. A call
whose file cannot be read, or whose address or key cannot be part of a request, sends nothing and
takes nothing from the network.
-/

namespace LaunchDesk

open Http

/-- A client: the address of the platform and the key to it. -/
structure Client where
  /-- The address, without a slash at its end. -/
  baseUrl : String
  /-- The key. -/
  apiKey : Option String
  deriving DecidableEq, Repr

namespace Client

/-- A text without slashes at its end. -/
def withoutFinalSlashes (url : String) : String :=
  String.ofList (url.toList.reverse.dropWhile (· == '/')).reverse

/-- The client for an address and a key; an empty key is none. -/
def of (url : String) (key : Option String) : Client :=
  ⟨withoutFinalSlashes url, key.filter fun k => !k.isEmpty⟩

/-- Whether a client has a key. -/
def hasKey (client : Client) : Bool :=
  client.apiKey.isSome

end Client

/-- What a client can reach: one server or none, and what it will reply to one request after the
other. -/
structure Network where
  /-- The server. -/
  server : Option Origin
  /-- The replies to come. -/
  replies : List Reply
  deriving DecidableEq, Repr

namespace Call

/-- The service of the platform behind a call. -/
def path : Call → String
  | schedule .. => "/api/v1/jobs/schedule"
  | scheduleOnCluster .. => "/api/v1/jobs/schedule"
  | start .. => "/api/v1/jobs/start"
  | confirmCluster .. => "/api/v1/clusters/confirm"
  | stop .. => "/api/v1/jobs/stop"
  | list .. => "/api/v1/jobs/list"

/-- The log entry of a call, if it has one. -/
def note? : Call → Option LogEntry
  | schedule file _ => some ⟨.debug, .jobClient, "Scheduling job file " ++ Path.knownAs file⟩
  | scheduleOnCluster file _ =>
      some ⟨.debug, .jobClient, "Scheduling job file " ++ Path.knownAs file⟩
  | start offer => some ⟨.debug, .jobClient, "Running scheduled job " ++ offer.jobId⟩
  | confirmCluster clusterId machines =>
      some ⟨.debug, .clusterClient, "Confirming cluster " ++ clusterId ++ " with " ++
        Decimal.natText machines.length ++ " matched resource(s)"⟩
  | stop jobId platform =>
      some ⟨.debug, .jobClient, "Stopping job " ++ jobId ++ " on " ++ platform.name⟩
  | list .. => none

/-- The definition of a job in a file. -/
def definition (folder : Folder) (file : String) : Except CallError String :=
  match folder.readText file with
  | .ok text => .ok text
  | .error e => .error (.jobFile file e.message)

/-- The request to schedule the job that a file defines. -/
def scheduleRequest (folder : Folder) (file : String) (group cluster : Option String) :
    Except CallError ScheduleRequest :=
  match definition folder file with
  | .ok text => .ok ⟨Path.knownAs file, text, group, cluster⟩
  | .error e => .error e

/-- The JSON text that a call sends. -/
def body (folder : Folder) : Call → Except CallError String
  | schedule file group =>
      (scheduleRequest folder file (group.filter fun g => !g.isEmpty) none).map encode
  | scheduleOnCluster file cluster =>
      (scheduleRequest folder file none (some cluster)).map encode
  | start offer => .ok (encode (StartRequest.mk offer.jobId offer.projectName offer.jobName))
  | confirmCluster clusterId machines => .ok (encode (ClusterRequest.mk clusterId machines))
  | stop jobId platform => .ok (encode (StopRequest.mk jobId platform))
  | list projectName platform jobId => .ok (encode (ListRequest.mk projectName platform jobId))

end Call

namespace Http.Response

/-- The character set that the body is declared to have. -/
def charset (r : Response) : Text.Charset :=
  match r.contentType.bind (mediaParameterValue? "charset") with
  | some label => .ofLabel label
  | none => .utf8

/-- The body as text, if it is all there. -/
def text? (r : Response) : Option String :=
  r.content?.map r.charset.decode

/-- The refusal that a response is. -/
def refusal (r : Response) : CallError :=
  .refused r.status (r.text?.getD "Unknown error")

/-- What a response grants with an answer in its body. -/
def answer {α : Type} (read? : List UInt8 → Option α) (r : Response) : Except CallError α :=
  if r.granted then
    match r.content?.bind read? with
    | some a => .ok a
    | none => .error (.badReply "Failed to parse JSON response: error decoding response body")
  else .error r.refusal

/-- What a response grants by its status alone. -/
def consent (r : Response) : Except CallError Unit :=
  if r.granted then .ok () else .error r.refusal

end Http.Response

/-- The outcome of a call that got a response; only the order to stop a job needs no body. -/
def Call.outcome : (c : Call) → Response → CallResult c
  | schedule .., r => r.answer (decodeBytes? Offer)
  | scheduleOnCluster .., r => r.answer (decodeBytes? Offer)
  | start .., r => r.answer (decodeBytes? Receipt)
  | confirmCluster .., r => (r.answer (decodeBytes? ClusterReply)).map ClusterReply.confirmed
  | stop .., r => r.consent
  | list .., r => (r.answer (decodeBytes? JobList)).map JobList.jobs

/-- Whether a character may be part of a key. -/
def fitsHeader (c : Char) : Bool :=
  c == '\t' || (0x20 ≤ c.toNat && c.toNat != 0x7F)

/-- Whether a key may be part of a request. -/
def usableKey (key : String) : Bool :=
  key.toList.all fitsHeader

/-- What became of a request. -/
structure Delivery where
  /-- The response, or why there is none. -/
  outcome : Except RequestFault Response
  /-- The requests that reached a server. -/
  received : List Request
  /-- The network afterwards. -/
  network : Network

namespace Network

/-- Send a request to an address. -/
def send (network : Network) (url : Url) (request : Request) : Delivery :=
  if !url.isSendable then ⟨.error (.unreachable url.text), [], network⟩
  else if network.server = some url.origin then
    { outcome :=
        match network.replies.head? with
        | some (some response) => .ok response
        | _ => .error (.unanswered url.text)
      received := [request]
      network := { network with replies := network.replies.tail } }
  else ⟨.error (.unanswered url.text), [], network⟩

end Network

namespace Client

/-- The address of a service, if it is one. -/
def url? (client : Client) (path : String) : Option Url :=
  Url.parse? (client.baseUrl ++ path)

/-- Whether the key, if there is one, may be part of a request. -/
def keyUsable (client : Client) : Bool :=
  client.apiKey.all usableKey

/-- The credentials of the key, if there is one. -/
def credentials (client : Client) : List String :=
  (client.apiKey.map ("Bearer " ++ ·)).toList

/-- The request that posts a text to an address. A login in the address comes before the key. -/
def request (client : Client) (url : Url) (body : String) : Request where
  method := "POST"
  path := String.ofList url.target
  credentials := url.credentials ++ client.credentials
  contentType := "application/json"
  body := body

/-- Why no request can be sent to an address that is none of the web. -/
def addressFault (client : Client) (path : String) : RequestFault :=
  match ForeignUrl.parse? (client.baseUrl ++ path) with
  | some url => if url.hasHost && !client.keyUsable then .unsendable else .unreachable url.text
  | none => .unsendable

/-- Post a text to a service of the platform. -/
def post (client : Client) (path body : String) (network : Network) : Delivery :=
  match client.url? path with
  | some url =>
      if client.keyUsable then network.send url (client.request url body)
      else ⟨.error .unsendable, [], network⟩
  | none => ⟨.error (client.addressFault path), [], network⟩

/-- Serve a call. -/
def serve (client : Client) (folder : Folder) (c : Call) (network : Network) : Served Network c :=
  match c.body folder with
  | .error e => ⟨.error e, [], [], network⟩
  | .ok body =>
      let delivery := client.post c.path body network
      { result :=
          match delivery.outcome with
          | .ok response => c.outcome response
          | .error fault => .error (.requestFailed fault)
        notes := c.note?.toList
        requests := delivery.received
        state := delivery.network }

end Client

end LaunchDesk
