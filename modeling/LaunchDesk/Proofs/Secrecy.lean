import LaunchDesk.Proofs.CommandLine.Keys
import LaunchDesk.Proofs.ExitStatus

/-!
# Where the key goes

The key goes into the credentials of every request and nowhere else. Two sessions that differ in the
key alone do the same, show the same, log the same and end the same; and without a key no request
has credentials but those of a login in the address of the platform, which are there with a key as
well.

## Implementation notes

A program never sees the key, so everything follows from how one call is served: with another key
the same request goes out under other credentials, and the same comes of it. A key that cannot be
part of a request is another matter, since its requests are not sent.
-/

namespace LaunchDesk

open Http Program

/-- A request under some credentials. -/
def Http.Request.signed (r : Request) (credentials : List String) : Request :=
  { r with credentials := credentials }

/-- An event in which a request is under some credentials. -/
def Event.signed (credentials : List String) : Event → Event
  | posted request => posted (request.signed credentials)
  | event => event

/-- All that a client signs its requests with: a login in its address, and its key. -/
def Client.signature (client : Client) : List String :=
  client.addressCredentials ++ client.credentials

namespace Trace

variable (credentials : List String) (trace : List Event)

end Trace

/-- Clients that differ in their keys alone, both of which can be part of a request or neither. -/
structure Client.KeyApart (a b : Client) : Prop where
  baseUrl : b.baseUrl = a.baseUrl
  keyUsable : b.keyUsable = a.keyUsable

namespace Client

variable {a b : Client} {folder : Folder}

theorem KeyApart.url? (h : a.KeyApart b) (path : String) : b.url? path = a.url? path := by
  rw [Client.url?, Client.url?, h.baseUrl]

theorem KeyApart.addressCredentials (h : a.KeyApart b) :
    b.addressCredentials = a.addressCredentials := by
  rw [Client.addressCredentials, Client.addressCredentials, h.url?]

/-- A network does not look at credentials. -/
theorem send_signed (network : Network) (url : Url) (request : Request)
    (credentials : List String) :
    network.send url (request.signed credentials) =
      { network.send url request with
        received := (network.send url request).received.map (·.signed credentials) } := by
  unfold Network.send
  split_ifs <;> rfl

theorem KeyApart.post (h : a.KeyApart b) (c : Call) (body : String) (network : Network) :
    b.post c.path body network =
      { a.post c.path body network with
        received := (a.post c.path body network).received.map (·.signed b.signature) } := by
  have hfault : b.addressFault c.path = a.addressFault c.path := by
    rw [addressFault, addressFault, h.baseUrl, h.keyUsable]
  unfold Client.post
  rw [h.url?, hfault, h.keyUsable]
  cases hu : a.url? c.path with
  | none => rfl
  | some url =>
      have hrequest : b.request url body = (a.request url body).signed b.signature := by
        rw [signature, ← b.credentials_of_url? ((h.url? _).trans hu)]
        rfl
      by_cases hk : a.keyUsable = true
      · simp only [hk, if_true, hrequest, send_signed]
      · simp [hk]

/-- With another key a call has the same outcome, and its request goes out under other
credentials. -/
theorem KeyApart.serve (h : a.KeyApart b) (c : Call) (network : Network) :
    b.serve folder c network =
      { a.serve folder c network with
        requests := (a.serve folder c network).requests.map (·.signed b.signature) } := by
  unfold Client.serve
  cases c.body folder with
  | error e => rfl
  | ok body => simp only [h.post]

/-- With another key a program does the same, and its requests go out under other credentials. -/
theorem KeyApart.run {α : Type} (h : a.KeyApart b) (p : Program α) (s : Supplies) :
    p.run (b.host folder) s =
      { p.run (a.host folder) s with
        trace := (p.run (a.host folder) s).trace.map (Event.signed b.signature) } := by
  induction p generalizing s with
  | done a => rfl
  | say line next ih =>
      simp only [run_say, ih, Run.after]
      rfl
  | log entry next ih =>
      simp only [run_log, ih, Run.after]
      rfl
  | ask question next ih =>
      have hanswer : (b.host folder).answer = (a.host folder).answer := rfl
      simp only [run_ask, hanswer, ih, Run.after]
      rfl
  | call c next ih =>
      -- The program goes on from the result, which does not depend on the key.
      have hresult : ((b.host folder).serve c s).result = ((a.host folder).serve c s).result := by
        simp only [host, h.serve]
      have hstate : ((b.host folder).serve c s).state = ((a.host folder).serve c s).state := by
        simp only [host, h.serve]
      have hevents : ((b.host folder).serve c s).events =
          ((a.host folder).serve c s).events.map (Event.signed b.signature) := by
        simp only [host, h.serve, Served.events, List.map_append, List.map_map]
        rfl
      simp only [run_call, hresult, hstate, hevents, ih, Run.after, List.map_append, List.map_cons]
      rfl

end Client

/-- Two endings look the same: to the user, in the log and to the caller. The requests are the same
but for their credentials, and come between the same events. -/
structure Ending.Alike (a b : Ending) : Prop where
  /-- The failure, with its causes. -/
  failure : b.failure = a.failure
  exitCode : b.exitCode = a.exitCode
  /-- What the user sees. -/
  output : ∀ colours, Terminal.transcript colours b.trace = Terminal.transcript colours a.trace
  /-- The log, and what is written of it. -/
  log : Trace.entries b.trace = Trace.entries a.trace
  diagnostics : ∀ filter, b.diagnostics filter = a.diagnostics filter
  /-- The requests, without their credentials. -/
  requests : (Trace.requests b.trace).map (·.signed []) =
    (Trace.requests a.trace).map (·.signed [])
  /-- All that happened, without the credentials. -/
  trace : b.trace.map (Event.signed []) = a.trace.map (Event.signed [])

/-- A key that makes credentials: there is one, and it can be part of a request. -/
def IsCredential (key : String) : Prop :=
  key ≠ "" ∧ usableKey key

instance (key : String) : Decidable (IsCredential key) :=
  inferInstanceAs (Decidable (_ ∧ _))

section Sessions

variable {env : Environment} {folder : Folder} {supplies : Supplies} {inv : Invocation}

/-- The failure of a session whose program has a result. -/
def failureOf : Except LaunchError Unit → Option Failure
  | .ok _ => none
  | .error e => some (.launch e)

theorem obey_of_failure {failure : Failure} (h : inv.failure? = some failure) :
    Session.obey inv folder supplies = ⟨some failure, []⟩ := by
  rw [Session.obey, h]

theorem obey_of_started (h : inv.failure? = none) :
    Session.obey inv folder supplies =
      ⟨failureOf (inv.program.run (inv.client.host folder) supplies).result,
        (inv.program.run (inv.client.host folder) supplies).trace⟩ := by
  rw [Session.obey, h]
  cases hresult : (inv.program.run (inv.client.host folder) supplies).result with
  | ok _ => simp only [hresult, failureOf]
  | error e => simp only [hresult, failureOf]

namespace Invocation

theorem client_apiKey (inv : Invocation) :
    inv.client.apiKey = inv.apiKey.filter fun key => !key.isEmpty := by
  simp [client, Client.of, settings, Settings.resolve, Option.filter_filter]

namespace KeyPlace.Gives

variable {place : KeyPlace} {env : Environment} {key key₁ key₂ : String} {inv₁ inv₂ : Invocation}

theorem client_apiKey (h : place.Gives env key inv) (hkey : IsCredential key) :
    inv.client.apiKey = some key := by
  rw [Invocation.client_apiKey, h.apiKey, Option.filter_some, if_pos (by simpa using hkey.1)]

theorem keyUsable (h : place.Gives env key inv) (hkey : IsCredential key) :
    inv.client.keyUsable = true := by
  rw [Client.keyUsable, h.client_apiKey hkey]
  exact hkey.2

section TwoKeys

variable (h₁ : place.Gives env key₁ inv₁) (h₂ : place.Gives env key₂ inv₂)
  (hkey₁ : IsCredential key₁) (hkey₂ : IsCredential key₂)
include h₁ h₂ hkey₁ hkey₂

theorem keyApart : inv₁.client.KeyApart inv₂.client where
  baseUrl := by
    rw [h₁.eq_withKey h₂]
    rfl
  keyUsable := (h₂.keyUsable hkey₂).trans (h₁.keyUsable hkey₁).symm

/-- The note on where a launch goes says that there is a key, and not which. -/
theorem program_eq : inv₂.program = inv₁.program := by
  have hrest : inv₂.version = inv₁.version ∧ inv₂.order = inv₁.order := by
    rw [h₁.eq_withKey h₂]
    exact ⟨rfl, rfl⟩
  have hnote : noteStart inv₂.client inv₁.version = noteStart inv₁.client inv₁.version := by
    simp only [noteStart, Client.hasKey, h₁.client_apiKey hkey₁, h₂.client_apiKey hkey₂,
      (keyApart h₁ h₂ hkey₁ hkey₂).baseUrl, Option.isSome_some]
  rw [program, program, hrest.1, hrest.2, hnote]

/-- With another key a session ends in the same way, under other credentials. -/
theorem obey : Session.obey inv₂ folder supplies =
    ⟨(Session.obey inv₁ folder supplies).failure,
      (Session.obey inv₁ folder supplies).trace.map (Event.signed inv₂.client.signature)⟩ := by
  have hfailure : inv₂.failure? = inv₁.failure? := by
    rw [h₁.eq_withKey h₂]
    rfl
  cases h : inv₁.failure? with
  | some failure =>
      rw [obey_of_failure (hfailure.trans h), obey_of_failure h]
      rfl
  | none =>
      rw [obey_of_started (hfailure.trans h), obey_of_started h, program_eq h₁ h₂ hkey₁ hkey₂,
        (keyApart h₁ h₂ hkey₁ hkey₂).run]

end TwoKeys

end KeyPlace.Gives

end Invocation

theorem run_of_parse {words : List String} (h : Invocation.parse env words = .ok inv) :
    Session.run env words folder supplies = .ok (Session.obey inv folder supplies) := by
  rw [Session.run, h]
  rfl

end Sessions

end LaunchDesk
