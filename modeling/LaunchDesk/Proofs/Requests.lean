import LaunchDesk.Client
import LaunchDesk.Proofs.Launch
import LaunchDesk.Proofs.Http.Addresses

/-!
# The requests of a run

A client turns each call into one request or into none, whatever the network has replied so far. So
the requests of a run are those of its calls, in order, and each of them takes one reply.

## Implementation notes

Whether a call has a request is settled by the client, the files and the call: by the file of the
job, the key, and the address with the server that it leads to. A host may have more in its state
than a network; the statements are about every host that leaves its calls to a client.
-/

namespace LaunchDesk

open Http Program

namespace Call

/-- The end of the address of the service behind a call. -/
def service : Call → List Char
  | schedule .. | scheduleOnCluster .. => "jobs/schedule".toList
  | start .. => "jobs/start".toList
  | confirmCluster .. => "clusters/confirm".toList
  | stop .. => "jobs/stop".toList
  | list .. => "jobs/list".toList

theorem path_eq (c : Call) : c.path = "/api/v1" ++ String.ofList ('/' :: c.service) := by
  cases c <;> rfl

theorem plain_service (c : Call) : Plain c.service := by
  cases c with
  | schedule | scheduleOnCluster => exact (by decide : Plain "jobs/schedule".toList)
  | start => exact (by decide : Plain "jobs/start".toList)
  | confirmCluster => exact (by decide : Plain "clusters/confirm".toList)
  | stop => exact (by decide : Plain "jobs/stop".toList)
  | list => exact (by decide : Plain "jobs/list".toList)

theorem exists_plain (c : Call) : ∃ t, Plain t ∧ c.path = String.ofList ('/' :: t) := by
  refine ⟨"api/v1/".toList ++ c.service, ?_, ?_⟩
  · intro d hd
    rcases List.mem_append.mp hd with hd | hd
    · exact (by decide : Plain "api/v1/".toList) d hd
    · exact c.plain_service d hd
  · rw [c.path_eq]
    simp [String.ext_iff]

/-- The service of the platform that a call is for. -/
inductive Endpoint : Call → String → Prop
  | schedule {file : String} {group : Option String} :
      Endpoint (.schedule file group) "/api/v1/jobs/schedule"
  | scheduleOnCluster {file cluster : String} :
      Endpoint (.scheduleOnCluster file cluster) "/api/v1/jobs/schedule"
  | start {offer : Offer} : Endpoint (.start offer) "/api/v1/jobs/start"
  | confirmCluster {cluster : String} {machines : List Machine} :
      Endpoint (.confirmCluster cluster machines) "/api/v1/clusters/confirm"
  | stop {jobId : String} {platform : Platform} :
      Endpoint (.stop jobId platform) "/api/v1/jobs/stop"
  | list {projectName : String} {platform : Platform} {jobId : Option String} :
      Endpoint (.list projectName platform jobId) "/api/v1/jobs/list"

theorem endpoint_iff {c : Call} {endpoint : String} : c.Endpoint endpoint ↔ endpoint = c.path := by
  constructor
  · rintro ⟨⟩ <;> rfl
  · rintro rfl
    cases c <;> constructor

/-- The file whose content a call sends. -/
def jobFile? : Call → Option String
  | schedule file _ => some file
  | scheduleOnCluster file _ => some file
  | _ => none

/-- Only a file that cannot be read keeps a call from having a text to send. -/
theorem body_error_iff {c : Call} {folder : Folder} :
    (∃ e, c.body folder = .error e) ↔
      ∃ file e, c.jobFile? = some file ∧ folder.readText file = .error e := by
  have hfile : ∀ file group cluster,
      (∃ e, (scheduleRequest folder file group cluster).map encode = .error e) ↔
        ∃ e, folder.readText file = .error e := by
    intro file group cluster
    unfold scheduleRequest definition
    cases folder.readText file with
    | ok text => simp [Except.map]
    | error e => simp [Except.map]
  cases c with
  | schedule file group => simpa [body, jobFile?] using hfile file _ _
  | scheduleOnCluster file cluster => simpa [body, jobFile?] using hfile file _ _
  | _ => simp [body, jobFile?]

end Call

@[simp] theorem Order.jobFile?_scheduling (order : Order) (file : String) :
    (order.scheduling file).jobFile? = some file := by
  unfold scheduling
  split <;> rfl

namespace Client

variable (client : Client) (folder : Folder)

/-- The addresses of all services have all but their ends in common. -/
theorem exists_stem : ∃ stem? : Option Stem, ∀ c : Call,
    client.url? c.path = stem?.map fun stem => stem.url ('/' :: c.service) := by
  obtain ⟨stem?, h⟩ := Http.exists_stem client.baseUrl
  refine ⟨stem?, fun c => ?_⟩
  rw [url?, c.path_eq, ← h c.service c.plain_service, String.append_assoc]

/-- The credentials that the address of the platform brings along. -/
def addressCredentials : List String :=
  (client.url? "/api/v1/").elim [] Url.credentials

/-- All requests bring the same credentials along. -/
theorem credentials_of_url? {c : Call} {url : Url} (h : client.url? c.path = some url) :
    url.credentials = client.addressCredentials := by
  obtain ⟨stem?, hstem⟩ := Http.exists_stem client.baseUrl
  rw [url?, c.path_eq, ← String.append_assoc, hstem _ c.plain_service] at h
  obtain ⟨stem, rfl, rfl⟩ := Option.map_eq_some_iff.mp h
  have hservices : "/api/v1/" = "/api/v1" ++ String.ofList ['/'] := rfl
  have hfolder : client.url? "/api/v1/" = some (stem.url ['/']) := by
    rw [url?, hservices, ← String.append_assoc, hstem [] (by decide), Option.map_some]
  rw [addressCredentials, hfolder, Option.elim_some, Url.credentials, Url.credentials,
    Stem.url_userInfo, Stem.url_userInfo]

/-- An address without an at sign brings none along. -/
theorem addressCredentials_eq_nil {client : Client} (h : '@' ∉ client.baseUrl.toList) :
    client.addressCredentials = [] := by
  cases hu : client.url? "/api/v1/" with
  | none => rw [addressCredentials, hu, Option.elim_none]
  | some url =>
      have hinfo : url.userInfo = [] := userInfo_of_parse? hu (by simpa using h)
      rw [addressCredentials, hu, Option.elim_some, Url.credentials, hinfo]
      rfl

/-- In front of an at sign there may be a login; it is taken without its escapes. -/
example : (Client.mk "http://user:p%40ss@[::1]:8080" none).addressCredentials =
    ["Basic dXNlcjpwQHNz"] := by
  decide +kernel

/-- The request for a call that reaches a server, if one does: none if the file of the job cannot be
read, if the address or the key cannot be part of a request, or if the address leads elsewhere. -/
def image? (server : Option Origin) (c : Call) : Option Request :=
  match c.body folder, client.url? c.path with
  | .ok body, some url =>
      if client.keyUsable ∧ url.isSendable ∧ server = some url.origin then
        some (client.request url body)
      else none
  | _, _ => none

variable {client folder} {server : Option Origin} {c : Call} {network : Network}

theorem image?_eq_some_iff {r : Request} :
    client.image? folder server c = some r ↔ ∃ body url, c.body folder = .ok body ∧
      client.url? c.path = some url ∧ client.keyUsable ∧ url.isSendable ∧
      server = some url.origin ∧ r = client.request url body := by
  unfold image?
  split
  · next body url hb hu =>
      simp only [Option.ite_none_right_eq_some, Option.some.injEq, hb, hu, Except.ok.injEq]
      constructor
      · rintro ⟨⟨hk, hs, ho⟩, rfl⟩
        exact ⟨body, url, rfl, rfl, hk, hs, ho, rfl⟩
      · rintro ⟨_, _, rfl, rfl, hk, hs, ho, rfl⟩
        exact ⟨⟨hk, hs, ho⟩, rfl⟩
  · next hno =>
      constructor
      · rintro ⟨⟩
      · rintro ⟨body, url, hb, hu, -⟩
        exact absurd hu (hno body url hb)

/-- What the request for a call is, and where it goes to. -/
structure Sends (client : Client) (folder : Folder) (c : Call) (r : Request) : Prop where
  method : r.method = "POST"
  body : c.body folder = .ok r.body
  contentType : r.contentType = "application/json"
  /-- A login in the address comes first, then the key. -/
  credentials : r.credentials =
    client.addressCredentials ++ (client.apiKey.map ("Bearer " ++ ·)).toList
  /-- Only an address with an at sign can have a login. -/
  authorization : '@' ∉ client.baseUrl.toList →
    r.authorization = client.apiKey.map ("Bearer " ++ ·)
  /-- The path is the one in the address of the platform with that of the service behind it. -/
  path : ∀ endpoint, c.Endpoint endpoint → ∃ url,
    Url.parse? (client.baseUrl ++ endpoint) = some url ∧ r.path = String.ofList url.target
  /-- It is the service in the folder that the address of the platform leads to, unless this has a
  query or a fragment. -/
  path_in_folder : ∀ endpoint, c.Endpoint endpoint →
    (∀ ch ∈ client.baseUrl.toList, ch ≠ '?' ∧ ch ≠ '#') →
    ∀ url, Url.parse? (client.baseUrl ++ "/") = some url → ∃ folder,
      url.target = folder ++ ['/'] ∧ r.path = String.ofList folder ++ endpoint
  /-- It is just the service if the address of the platform is just a server. -/
  path_of_bare : ∀ endpoint, c.Endpoint endpoint →
    ∀ (secure : Bool) (authority : List Char), Bare authority →
      client.baseUrl = (if secure then "https://" else "http://") ++ String.ofList authority →
      r.path = endpoint

section Paths

variable {url : Url}

theorem target_in_folder (hu : client.url? c.path = some url)
    (hbase : ∀ ch ∈ client.baseUrl.toList, ch ≠ '?' ∧ ch ≠ '#') {top : Url}
    (htop : Url.parse? (client.baseUrl ++ "/") = some top) :
    ∃ folder, top.target = folder ++ ['/'] ∧
      String.ofList url.target = String.ofList folder ++ c.path := by
  obtain ⟨t, ht, hpath⟩ := c.exists_plain
  obtain ⟨folder, htarget, hfolder⟩ := parse?_folder hbase htop
  rw [url?, hpath, hfolder t ht] at hu
  obtain rfl := Option.some.inj hu
  exact ⟨folder, htarget, by rw [hpath, ← String.ofList_append]⟩

theorem target_of_bare {secure : Bool} {authority : List Char} (ha : Bare authority)
    (hbase : client.baseUrl = (if secure then "https://" else "http://") ++ String.ofList authority)
    (hu : client.url? c.path = some url) : String.ofList url.target = c.path := by
  obtain ⟨t, ht, hpath⟩ := c.exists_plain
  rw [url?, hbase, hpath, parse?_bare secure ha ht] at hu
  obtain ⟨origin, -, rfl⟩ := Option.map_eq_some_iff.mp hu
  exact hpath.symm

end Paths

theorem sends_of_image {r : Request} (h : client.image? folder server c = some r) :
    client.Sends folder c r := by
  obtain ⟨body, url, hb, hu, -, -, -, rfl⟩ := image?_eq_some_iff.mp h
  have hcredentials : (client.request url body).credentials =
      client.addressCredentials ++ (client.apiKey.map ("Bearer " ++ ·)).toList := by
    rw [← credentials_of_url? client hu]
    rfl
  refine
    { method := rfl
      body := hb
      contentType := rfl
      credentials := hcredentials
      authorization := fun hat => ?_
      path := ?_
      path_in_folder := ?_
      path_of_bare := ?_ }
  · rw [Request.authorization, hcredentials, addressCredentials_eq_nil hat]
    cases client.apiKey <;> rfl
  · rintro endpoint hendpoint
    obtain rfl := Call.endpoint_iff.mp hendpoint
    exact ⟨url, hu, rfl⟩
  · rintro endpoint hendpoint hbase top htop
    obtain rfl := Call.endpoint_iff.mp hendpoint
    exact target_in_folder hu hbase htop
  · rintro endpoint hendpoint secure authority ha hbase
    obtain rfl := Call.endpoint_iff.mp hendpoint
    exact target_of_bare ha hbase hu

/-- What holds of the address for a call, in terms of its service. -/
theorem forall_url?_iff {p : Url → Prop} : (∀ url, client.url? c.path = some url → p url) ↔
    ∀ endpoint, c.Endpoint endpoint →
      ∀ url, Url.parse? (client.baseUrl ++ endpoint) = some url → p url := by
  simp [Call.endpoint_iff, url?]

/-- There are four ways for a call to have no request. -/
theorem image?_eq_none_iff :
    client.image? folder server c = none ↔
      (∃ file e, c.jobFile? = some file ∧ folder.readText file = .error e) ∨
      (∀ url, client.url? c.path = some url → url.isSendable = false) ∨
      client.keyUsable = false ∨
      (∀ url, client.url? c.path = some url → server ≠ some url.origin) := by
  rw [← Call.body_error_iff]
  cases hb : c.body folder with
  | error e =>
      have hnone : client.image? folder server c = none := by
        unfold image?
        rw [hb]
      exact iff_of_true hnone (Or.inl ⟨e, rfl⟩)
  | ok body =>
      cases hu : client.url? c.path with
      | none =>
          have hnone : client.image? folder server c = none := by
            unfold image?
            rw [hb, hu]
          exact iff_of_true hnone (Or.inr (Or.inl (by simp)))
      | some url =>
          unfold image?
          rw [hb, hu]
          by_cases hk : client.keyUsable = true <;> by_cases hs : url.isSendable = true <;>
            simp [hk, hs]

/-- A call with a request sends it and takes one reply, and the reply becomes its result. -/
theorem serve_of_image {r : Request} (h : client.image? folder network.server c = some r) :
    (client.serve folder c network).requests = [r] ∧
      (client.serve folder c network).state =
        { network with replies := network.replies.tail } ∧
      (∀ response, network.replies.head? = some (some response) →
        (client.serve folder c network).result = c.outcome response) ∧
      ((∀ response, network.replies.head? ≠ some (some response)) →
        ∃ url, (client.serve folder c network).result =
          .error (.requestFailed (.unanswered url))) := by
  obtain ⟨body, url, hb, hu, hk, hs, ho, rfl⟩ := image?_eq_some_iff.mp h
  simp only [serve, hb, post, hu, hk, if_true, Network.send, hs, Bool.not_true, ho]
  refine ⟨rfl, rfl, fun response hr => ?_, fun hno => ⟨url.text, ?_⟩⟩
  · simp [hr]
  · cases hr : network.replies.head? with
    | none => simp
    | some reply =>
        cases reply with
        | none => simp
        | some response => exact absurd hr (hno response)

/-- A call without a request fails and leaves the network as it is. -/
theorem serve_of_noImage (h : client.image? folder network.server c = none) :
    (client.serve folder c network).requests = [] ∧
      (client.serve folder c network).state = network ∧
      ∃ e, (client.serve folder c network).result = .error e := by
  unfold image? at h
  unfold serve
  cases hb : c.body folder with
  | error e => exact ⟨rfl, rfl, e, rfl⟩
  | ok body =>
      simp only [post]
      cases hu : client.url? c.path with
      | none => exact ⟨rfl, rfl, _, rfl⟩
      | some url =>
          simp only [hb, hu, ite_eq_right_iff, reduceCtorEq, imp_false] at h
          simp only [Network.send]
          by_cases hk : client.keyUsable = true
          · by_cases hs : url.isSendable = true
            · have ho : network.server ≠ some url.origin := fun ho => h ⟨hk, hs, ho⟩
              simp [hk, hs, ho]
            · simp [hk, hs]
          · simp [hk]

/-- Only a call with a request is granted. -/
theorem image?_of_ok {a : c.Answer} (h : (client.serve folder c network).result = .ok a) :
    ∃ r, client.image? folder network.server c = some r := by
  cases hi : client.image? folder network.server c with
  | some r => exact ⟨r, rfl⟩
  | none =>
      obtain ⟨-, -, e, he⟩ := serve_of_noImage hi
      rw [he] at h
      cases h

theorem serve_requests : (client.serve folder c network).requests =
    (client.image? folder network.server c).toList := by
  cases hi : client.image? folder network.server c with
  | some r => exact (serve_of_image hi).1
  | none => exact (serve_of_noImage hi).1

/-- A call takes one reply for each of its requests, and the server stays the same. -/
theorem serve_state : (client.serve folder c network).state =
    { network with
      replies := network.replies.drop (client.serve folder c network).requests.length } := by
  cases hi : client.image? folder network.server c with
  | some r =>
      obtain ⟨hr, hs, -⟩ := serve_of_image hi
      rw [hr, hs, List.length_singleton, List.drop_one]
  | none =>
      obtain ⟨hr, hs, -⟩ := serve_of_noImage hi
      rw [hr, hs, List.length_nil, List.drop_zero]

/-- An order to stop a job has a request if the call that scheduled it had one, as its address is
the shorter one. -/
theorem image?_stop {r : Request} (hs : c.jobFile?.isSome)
    (h : client.image? folder server c = some r) (jobId : String) (platform : Platform) :
    ∃ stop, client.image? folder server (.stop jobId platform) = some stop := by
  obtain ⟨body, url, hb, hu, hk, hsend, ho, rfl⟩ := image?_eq_some_iff.mp h
  obtain ⟨stem?, hstem⟩ := client.exists_stem
  have hlength : (Call.stop jobId platform).service.length ≤ c.service.length := by
    cases c with
    | schedule | scheduleOnCluster =>
        exact (by decide : "jobs/stop".toList.length ≤ "jobs/schedule".toList.length)
    | _ => cases hs
  rw [hstem c] at hu
  obtain ⟨stem, rfl, rfl⟩ := Option.map_eq_some_iff.mp hu
  refine ⟨_, image?_eq_some_iff.mpr ⟨_, stem.url ('/' :: (Call.stop jobId platform).service), rfl,
    hstem _, hk, ?_, ?_, rfl⟩⟩
  · simp only [Url.isSendable, Stem.url_origin, Stem.url_text, Bool.and_eq_true, decide_eq_true_eq,
      String.length_ofList, List.length_append, List.length_cons] at hsend ⊢
    exact ⟨by omega, hsend.2⟩
  · rw [ho, Stem.url_origin, Stem.url_origin]

end Client

/-- A host leaves its calls to a client. -/
structure Client.Serves {σ : Type} (client : Client) (folder : Folder) (host : Host σ)
    (network : σ → Network) : Prop where
  /-- A call has the outcome that the client has for it. -/
  result : ∀ (c : Call) (s : σ),
    (host.serve c s).result = (client.serve folder c (network s)).result
  /-- Nothing is sent but the requests of the client. -/
  requests : ∀ (c : Call) (s : σ),
    (host.serve c s).requests = (client.serve folder c (network s)).requests
  /-- The network is what the client leaves. -/
  served : ∀ (c : Call) (s : σ),
    network (host.serve c s).state = (client.serve folder c (network s)).state
  /-- A question has nothing to do with the network. -/
  answered : ∀ (question : String) (s : σ), network (host.answer question s).2 = network s

/-- The outcomes that a client has for calls that are made one after the other. -/
def Client.outcomes (client : Client) (folder : Folder) : List Call → Network →
    List (Σ c : Call, CallResult c)
  | [], _ => []
  | c :: calls, network =>
      ⟨c, (client.serve folder c network).result⟩ ::
        client.outcomes folder calls (client.serve folder c network).state

/-- The outcome of an exchange, if it is a call. -/
def Exchange.outcome? : Exchange → Option (Σ c : Call, CallResult c)
  | served c reply => some ⟨c, reply⟩
  | _ => none

/-- The requests of a call come first. -/
theorem requests_called {σ : Type} {c : Call} (served : Served σ c) :
    Trace.requests (.called c :: served.events) = served.requests :=
  Trace.requests_events served

section Runs

variable {σ α : Type} {client : Client} {folder : Folder} {host : Host σ} {network : σ → Network}

/-- The requests of a run are those of its calls, in order. -/
theorem requests_run (h : client.Serves folder host network) (p : Program α) (s : σ) :
    Trace.requests (p.run host s).trace =
      (callsOf (p.history host s)).filterMap (client.image? folder (network s).server) := by
  induction p generalizing s with
  | done a => rfl
  | say line next ih => simpa [Trace.requests, history] using ih s
  | log entry next ih => simpa [Trace.requests, history] using ih s
  | ask question next ih =>
      have htail := ih (host.answer question s).1 (host.answer question s).2
      rw [h.answered] at htail
      simpa [Trace.requests, history] using htail
  | call c next ih =>
      have htail := ih (host.serve c s).result (host.serve c s).state
      rw [h.served, Client.serve_state] at htail
      simp only [run_call, Run.trace_after, history, callsOf_served, List.filterMap_cons]
      rw [Trace.requests_append, htail, requests_called, h.requests, Client.serve_requests]
      cases client.image? folder (network s).server c <;> rfl

theorem mem_requests_iff (h : client.Serves folder host network) {p : Program α} {s : σ}
    {r : Request} : r ∈ Trace.requests (p.run host s).trace ↔
      ∃ c ∈ callsOf (p.history host s), client.image? folder (network s).server c = some r := by
  rw [requests_run h, List.mem_filterMap]

/-- A run takes one reply for each of its requests. -/
theorem network_run (h : client.Serves folder host network) (p : Program α) (s : σ) :
    network (p.run host s).state =
      { network s with
        replies := (network s).replies.drop
          (Trace.requests (p.run host s).trace).length } := by
  induction p generalizing s with
  | done a => rfl
  | say line next ih => simpa [Trace.requests] using ih s
  | log entry next ih => simpa [Trace.requests] using ih s
  | ask question next ih =>
      have htail := ih (host.answer question s).1 (host.answer question s).2
      rw [h.answered] at htail
      simpa [Trace.requests] using htail
  | call c next ih =>
      have htail := ih (host.serve c s).result (host.serve c s).state
      rw [h.served, Client.serve_state] at htail
      simp only [run_call, Run.trace_after, Run.state_after]
      rw [htail, Trace.requests_append, requests_called, h.requests]
      simp [List.drop_drop]

/-- The outcomes of a run are those that the client has for its calls. -/
theorem outcomes_run (h : client.Serves folder host network) (p : Program α) (s : σ) :
    (p.history host s).filterMap Exchange.outcome? =
      client.outcomes folder (callsOf (p.history host s)) (network s) := by
  induction p generalizing s with
  | done a => rfl
  | say line next ih => exact ih s
  | log entry next ih => exact ih s
  | ask question next ih =>
      have htail := ih (host.answer question s).1 (host.answer question s).2
      rw [h.answered] at htail
      exact htail
  | call c next ih =>
      have htail := ih (host.serve c s).result (host.serve c s).state
      rw [h.served] at htail
      simp only [history, callsOf_served, Client.outcomes, ← h.result, ← htail]
      rfl

/-- A call that was granted has a request. -/
theorem image?_of_granted (h : client.Serves folder host network) (p : Program α) (s : σ)
    {c : Call} {a : c.Answer} (hg : .served c (.ok a) ∈ p.history host s) :
    ∃ r, client.image? folder (network s).server c = some r := by
  induction p generalizing s with
  | done a => simp [history] at hg
  | say line next ih => exact ih s (by simpa [history] using hg)
  | log entry next ih => exact ih s hg
  | ask question next ih =>
      have htail := ih (host.answer question s).1 (host.answer question s).2
      rw [h.answered] at htail
      exact htail (by simpa [history] using hg)
  | call d next ih =>
      have htail := ih (host.serve d s).result (host.serve d s).state
      rw [h.served, Client.serve_state] at htail
      rcases List.mem_cons.mp hg with heq | hrest
      · obtain ⟨rfl, hr⟩ := Exchange.served.inj heq
        apply Client.image?_of_ok (a := a)
        rw [← h.result, ← eq_of_heq hr]
      · exact htail hrest

section Scheduled

variable {order : Order} {file : String} {first : Exchange} {offer : Offer}

/-- A schedule call that brought an offer has a request. -/
theorem image?_of_offered (h : client.Serves folder host network) (p : Program α) (s : σ)
    (hs : Schedules order file first (.ok offer)) (hm : first ∈ p.history host s) :
    ∃ r, client.image? folder (network s).server (order.scheduling file) = some r := by
  cases hs with
  | plain ho reply =>
      simp only [Order.scheduling, ho]
      exact image?_of_granted h p s hm
  | clustered ho reply =>
      simp only [Order.scheduling, ho]
      exact image?_of_granted h p s hm

/-- When the job of an offer is stopped and nothing else is done, the server sees both calls. -/
theorem requests_stopped (h : client.Serves folder host network) (p : Program α) (s : σ)
    (hs : Schedules order file first (.ok offer)) (hm : first ∈ p.history host s)
    (hc : callsOf (p.history host s) = [order.scheduling file, .stop offer.jobId .falcon]) :
    ∃ schedule stop, Trace.requests (p.run host s).trace = [schedule, stop] ∧
      client.image? folder (network s).server (order.scheduling file) = some schedule ∧
      client.image? folder (network s).server (.stop offer.jobId .falcon) = some stop := by
  obtain ⟨schedule, hschedule⟩ := image?_of_offered h p s hs hm
  obtain ⟨stop, hstop⟩ := Client.image?_stop (by simp) hschedule offer.jobId .falcon
  refine ⟨schedule, stop, ?_, hschedule, hstop⟩
  rw [requests_run h, hc]
  simp [hschedule, hstop]

end Scheduled

end Runs

end LaunchDesk
