import LaunchDesk.Proofs.Refinement

/-!
# Calls one after the other

A client that is used for one call after the other serves each of them as if it were the only one.
The server sees one request for each call that can be sent, in the order of the calls; the reply to
a request decides on the result of its own call and on no other one; and the text of a request holds
all that the caller gave.

## Implementation notes

A call that cannot be sent takes no reply, so the reply to a call is not found at its place among
the calls but at the place of its request among the requests. The number of requests before a call
is what ties the three lists together; one lemma says so for calls put in front, and everything else
is about a single call.
-/

namespace LaunchDesk

open Http

/-- The network when some replies are gone. -/
def Network.past (network : Network) (n : Nat) : Network :=
  { network with replies := network.replies.drop n }

@[simp] theorem Network.past_server (network : Network) (n : Nat) :
    (network.past n).server = network.server := rfl

@[simp] theorem Network.past_past (network : Network) (m n : Nat) :
    (network.past m).past n = network.past (m + n) := by
  simp [past, List.drop_drop]

@[simp] theorem Network.head?_past (network : Network) (n : Nat) :
    (network.past n).replies.head? = network.replies[n]? :=
  List.head?_drop

namespace Call

/-- The numbers with a fraction that a call sends. -/
def amounts : Call → List Float
  | confirmCluster _ machines => machines.flatMap Machine.amounts
  | schedule .. | scheduleOnCluster .. | start .. | stop .. | list .. => []

/-- A text holds what the caller gave: read as a request of its kind it gives back the arguments of
the call, with the content of the file of the job; an empty group is none. -/
def HeldBy (folder : Folder) : Call → String → Prop
  | schedule file group, text =>
      ∃ definition, folder.readText file = .ok definition ∧
        decode? ScheduleRequest text =
          some ⟨Path.knownAs file, definition, group.filter fun g => !g.isEmpty, none⟩
  | scheduleOnCluster file cluster, text =>
      ∃ definition, folder.readText file = .ok definition ∧
        decode? ScheduleRequest text = some ⟨Path.knownAs file, definition, none, some cluster⟩
  | start offer, text =>
      decode? StartRequest text = some ⟨offer.jobId, offer.projectName, offer.jobName⟩
  | confirmCluster clusterId machines, text =>
      decode? ClusterRequest text = some ⟨clusterId, machines⟩
  | stop jobId platform, text => decode? StopRequest text = some ⟨jobId, platform⟩
  | list projectName platform jobId, text =>
      decode? ListRequest text = some ⟨projectName, platform, jobId⟩

variable {folder other : Folder} {c : Call} {text : String}

theorem readText_of_scheduleRequest {file : String} {group cluster : Option String}
    (h : (scheduleRequest folder file group cluster).map encode = .ok text) :
    ∃ definition, folder.readText file = .ok definition ∧
      text = encode (ScheduleRequest.mk (Path.knownAs file) definition group cluster) := by
  unfold scheduleRequest definition at h
  cases hread : folder.readText file with
  | error e =>
      rw [hread] at h
      cases h
  | ok definition =>
      rw [hread] at h
      exact ⟨definition, rfl, (Except.ok.inj h).symm⟩

/-- What a call sends holds what its caller gave, if its numbers can be written. -/
theorem heldBy_of_body (h : c.body folder = .ok text) (hamounts : ∀ x ∈ c.amounts, ReadsBack x) :
    c.HeldBy folder text := by
  have hread : ∀ (r : RecordType) (v : r.Value), (∀ x ∈ r.amounts v, ReadsBack x) →
      decode? r.Value (encode v) = some (r.settled v) :=
    fun r v => decode?_encode_of_readsBack (.record r) v
  cases c with
  | schedule file group =>
      obtain ⟨definition, hfile, rfl⟩ := readText_of_scheduleRequest h
      exact ⟨definition, hfile, hread .scheduleRequest _ (by simp [RecordType.amounts])⟩
  | scheduleOnCluster file cluster =>
      obtain ⟨definition, hfile, rfl⟩ := readText_of_scheduleRequest h
      exact ⟨definition, hfile, hread .scheduleRequest _ (by simp [RecordType.amounts])⟩
  | start offer =>
      obtain rfl := Except.ok.inj h
      exact hread .startRequest _ (by simp [RecordType.amounts])
  | confirmCluster clusterId machines =>
      obtain rfl := Except.ok.inj h
      exact hread .clusterRequest _ hamounts
  | stop jobId platform =>
      obtain rfl := Except.ok.inj h
      exact hread .stopRequest _ (by simp [RecordType.amounts])
  | list projectName platform jobId =>
      obtain rfl := Except.ok.inj h
      exact hread .listRequest _ (by simp [RecordType.amounts])

/-- A call that has no text to send fails because of its file. -/
theorem body_error {e : CallError} (h : c.body folder = .error e) :
    ∃ file reason, c.jobFile? = some file ∧ folder.readText file = .error reason ∧
      e = .jobFile file reason.message := by
  have hfile : ∀ file group cluster,
      (scheduleRequest folder file group cluster).map encode = .error e →
        ∃ reason, folder.readText file = .error reason ∧ e = .jobFile file reason.message := by
    intro file group cluster hrequest
    unfold scheduleRequest definition at hrequest
    cases hread : folder.readText file with
    | ok definition =>
        rw [hread] at hrequest
        cases hrequest
    | error reason =>
        rw [hread] at hrequest
        exact ⟨reason, rfl, (Except.error.inj hrequest).symm⟩
  cases c with
  | schedule file group => exact ⟨file, (hfile file _ _ h).imp fun reason hr => ⟨rfl, hr⟩⟩
  | scheduleOnCluster file cluster =>
      exact ⟨file, (hfile file _ _ h).imp fun reason hr => ⟨rfl, hr⟩⟩
  | start | confirmCluster | stop | list => cases h

/-- A call has a text to send exactly if the file of the job can be read, if there is one. -/
theorem exists_body_iff : (∃ text, c.body folder = .ok text) ↔
    ∀ file, c.jobFile? = some file → ∃ definition, folder.readText file = .ok definition := by
  constructor
  · rintro ⟨text, htext⟩ file hfile
    cases hread : folder.readText file with
    | ok definition => exact ⟨definition, rfl⟩
    | error reason =>
        obtain ⟨e, he⟩ := body_error_iff.mpr ⟨file, reason, hfile, hread⟩
        rw [htext] at he
        cases he
  · intro hfile
    cases hbody : c.body folder with
    | ok text => exact ⟨text, rfl⟩
    | error e =>
        obtain ⟨file, reason, hf, hreason, -⟩ := body_error hbody
        obtain ⟨definition, hdefinition⟩ := hfile file hf
        rw [hreason] at hdefinition
        cases hdefinition

/-- Of all files, only the one of the job matters to what a call sends. -/
theorem body_congr
    (h : ∀ file, c.jobFile? = some file → other.readText file = folder.readText file) :
    c.body other = c.body folder := by
  cases c with
  | schedule file group => simp only [body, scheduleRequest, definition, h file rfl]
  | scheduleOnCluster file cluster => simp only [body, scheduleRequest, definition, h file rfl]
  | start | confirmCluster | stop | list => rfl

end Call

namespace Client

/-- What it takes to send a call. -/
structure CanSend (client : Client) (folder : Folder) (server : Option Origin) (c : Call) :
    Prop where
  /-- The file of the job can be read. -/
  file : ∀ file, c.jobFile? = some file → ∃ definition, folder.readText file = .ok definition
  /-- The key can be part of a request. -/
  key : client.keyUsable
  /-- The address can be part of a request, and leads to the server. -/
  address : ∃ url, client.url? c.path = some url ∧ url.isSendable ∧ server = some url.origin

/-- How a client serves a call when some requests were sent before. -/
structure Delivers (client : Client) (folder : Folder) (network : Network) (sent : Nat) (c : Call)
    (served : Served Network c) : Prop where
  /-- The request of the call goes out, if there is one, and nothing else. -/
  requests : served.requests = (client.image? folder network.server c).toList
  /-- It takes one reply. -/
  state : served.state = network.past (sent + served.requests.length)
  /-- The response to the request becomes the result. -/
  answered : ∀ request response, client.image? folder network.server c = some request →
    network.replies[sent]? = some (some response) → served.result = c.outcome response
  /-- Without a response, as past the end of all replies, the call fails. -/
  unanswered : ∀ request, client.image? folder network.server c = some request →
    (∀ response, network.replies[sent]? ≠ some (some response)) →
      ∃ url, served.result = .error (.requestFailed (.unanswered url))
  /-- Without a request it fails as well, because of the file or because nothing can be sent. -/
  unsent : client.image? folder network.server c = none →
    (∃ file e, c.jobFile? = some file ∧ folder.readText file = .error e ∧
      served.result = .error (.jobFile file e.message)) ∨
    ∃ fault, served.result = .error (.requestFailed fault)
  /-- The result is what it would be if the call were the only one and there were no other reply
  than its own. -/
  alone : ∀ replies : List Reply,
    ((client.image? folder network.server c).isSome → replies.head? = network.replies[sent]?) →
      served.result = (client.serve folder c ⟨network.server, replies⟩).result

variable {client : Client} {folder other : Folder} {server : Option Origin} {c : Call}
  {network : Network}

/-- A call has a request exactly if it can be sent. -/
theorem image?_isSome_iff :
    (client.image? folder server c).isSome ↔ client.CanSend folder server c := by
  simp only [Option.isSome_iff_exists, image?_eq_some_iff]
  constructor
  · rintro ⟨_, text, url, htext, hu, hk, hs, ho, -⟩
    exact ⟨Call.exists_body_iff.mp ⟨text, htext⟩, hk, url, hu, hs, ho⟩
  · rintro ⟨hfile, hk, url, hu, hs, ho⟩
    obtain ⟨text, htext⟩ := Call.exists_body_iff.mpr hfile
    exact ⟨_, text, url, htext, hu, hk, hs, ho, rfl⟩

/-- Of all files, only the one of the job matters to the request for a call. -/
theorem image?_congr
    (h : ∀ file, c.jobFile? = some file → other.readText file = folder.readText file) :
    client.image? other server c = client.image? folder server c := by
  simp only [image?, Call.body_congr h]

theorem serve_past : (client.serve folder c network).state =
    network.past (client.image? folder network.server c).toList.length := by
  rw [serve_state, serve_requests, Network.past]

/-- Only the first reply matters to a call, and only if it has a request. -/
theorem serve_result_congr (network : Network) {replies : List Reply}
    (h : (client.image? folder network.server c).isSome →
      replies.head? = network.replies.head?) :
    (client.serve folder c ⟨network.server, replies⟩).result =
      (client.serve folder c network).result := by
  unfold image? at h
  unfold serve
  cases hb : c.body folder with
  | error e => rfl
  | ok text =>
      simp only [post]
      cases hu : client.url? c.path with
      | none => rfl
      | some url =>
          simp only [hb, hu] at h
          by_cases hk : client.keyUsable = true
          · by_cases hs : url.isSendable = true
            · by_cases ho : network.server = some url.origin
              · have hhead := h (by simp [hk, hs, ho])
                simp [Network.send, hk, hs, ho, hhead]
              · simp [Network.send, hk, hs, ho]
            · simp [Network.send, hk, hs]
          · simp [hk]

/-- A call without a request fails because of its file, or because no request can be sent. -/
theorem serve_result_of_noImage (network : Network)
    (h : client.image? folder network.server c = none) :
    (∃ file e, c.jobFile? = some file ∧ folder.readText file = .error e ∧
      (client.serve folder c network).result = .error (.jobFile file e.message)) ∨
    ∃ fault, (client.serve folder c network).result = .error (.requestFailed fault) := by
  unfold image? at h
  unfold serve
  cases hb : c.body folder with
  | error e =>
      obtain ⟨file, reason, hfile, hreason, rfl⟩ := Call.body_error hb
      exact Or.inl ⟨file, reason, hfile, hreason, rfl⟩
  | ok text =>
      right
      simp only [post]
      cases hu : client.url? c.path with
      | none => exact ⟨_, rfl⟩
      | some url =>
          simp only [hb, hu, ite_eq_right_iff, reduceCtorEq, imp_false] at h
          by_cases hk : client.keyUsable = true
          · by_cases hs : url.isSendable = true
            · have ho : network.server ≠ some url.origin := fun ho => h ⟨hk, hs, ho⟩
              simp [Network.send, hk, hs, ho]
            · simp [Network.send, hk, hs]
          · simp [hk]

/-- A call is delivered when it is served by the network that the requests before it have left. -/
theorem delivers_serve (network : Network) (sent : Nat) (c : Call) :
    client.Delivers folder network sent c (client.serve folder c (network.past sent)) where
  requests := serve_requests
  state := by
    rw [serve_past, serve_requests, Network.past_past, Network.past_server]
  answered := by
    intro request response hi hr
    rw [← Network.past_server network sent] at hi
    obtain ⟨-, -, hanswered, -⟩ := serve_of_image hi
    exact hanswered response (by rwa [Network.head?_past])
  unanswered := by
    intro request hi hno
    rw [← Network.past_server network sent] at hi
    obtain ⟨-, -, -, hunanswered⟩ := serve_of_image hi
    exact hunanswered fun response => by rw [Network.head?_past]; exact hno response
  unsent := serve_result_of_noImage (network.past sent)
  alone := by
    intro replies hhead
    exact (serve_result_congr (network.past sent)
      fun hi => (hhead hi).trans (Network.head?_past network sent).symm).symm

variable (client folder)

/-- Calls that are made one after the other, each with the way it was served. -/
def serveAll : List Call → Network → List (Σ c : Call, Served Network c)
  | [], _ => []
  | c :: calls, network =>
      ⟨c, client.serve folder c network⟩ ::
        serveAll calls (client.serve folder c network).state

theorem map_fst_serveAll (calls : List Call) (network : Network) :
    (client.serveAll folder calls network).map Sigma.fst = calls := by
  induction calls generalizing network with
  | nil => rfl
  | cons c calls ih => exact congrArg (c :: ·) (ih _)

/-- The requests are those of the calls, as each call leaves the server in its place. -/
theorem requests_serveAll (calls : List Call) (network : Network) :
    ((client.serveAll folder calls network).flatMap fun s => s.2.requests) =
      calls.filterMap (client.image? folder network.server) := by
  induction calls generalizing network with
  | nil => rfl
  | cons c calls ih =>
      have htail := ih (client.serve folder c network).state
      rw [serve_past, Network.past_server] at htail
      simp only [serveAll, List.flatMap_cons, serve_past, htail, serve_requests,
        List.filterMap_cons]
      cases client.image? folder network.server c <;> rfl

/-- Calls in front take as many replies as they have requests, and leave the rest to the others. -/
theorem serveAll_append (before calls : List Call) (network : Network) :
    client.serveAll folder (before ++ calls) network =
      client.serveAll folder before network ++ client.serveAll folder calls
        (network.past (before.filterMap (client.image? folder network.server)).length) := by
  induction before generalizing network with
  | nil => rfl
  | cons c before ih =>
      have htail := ih (client.serve folder c network).state
      simp only [serve_past, Network.past_server, Network.past_past] at htail
      simp only [List.cons_append, serveAll, serve_past, htail, List.filterMap_cons]
      cases client.image? folder network.server c with
      | none => simp
      | some request => simp [Nat.add_comm]

/-- A call in the middle is served by the network that the requests before it have left. -/
theorem getElem?_serveAll (before after : List Call) (c : Call) (network : Network) :
    (client.serveAll folder (before ++ c :: after) network)[before.length]? =
      some ⟨c, client.serve folder c
        (network.past (before.filterMap (client.image? folder network.server)).length)⟩ := by
  have hlength : (client.serveAll folder before network).length = before.length := by
    rw [← List.length_map Sigma.fst, map_fst_serveAll]
  rw [serveAll_append, List.getElem?_append_right hlength.le, hlength, Nat.sub_self]
  rfl

end Client

/-- The server sees one request for each call that can be sent, in the order of the calls. Behind
any calls, each call is served by the reply to its own request alone. Its request depends on the
client, the file of the job and the call, and its text gives back all that the caller gave. -/
theorem calls_delivered_in_order (client : Client) (folder : Folder) (network : Network)
    (calls : List Call) :
    let image := client.image? folder network.server
    let served := client.serveAll folder calls network
    (served.map Sigma.fst = calls ∧
      (served.flatMap fun s => s.2.requests) = calls.filterMap image) ∧
    (∀ before c after, calls = before ++ c :: after → ∃ s : Served Network c,
      served[before.length]? = some ⟨c, s⟩ ∧
      client.Delivers folder network (before.filterMap image).length c s) ∧
    ∀ c, ((image c).isSome ↔ client.CanSend folder network.server c) ∧
      (∀ other : Folder,
        (∀ file, c.jobFile? = some file → other.readText file = folder.readText file) →
          client.image? other network.server c = image c) ∧
      ∀ request, image c = some request → client.Sends folder c request ∧
        ((∀ x ∈ c.amounts, ReadsBack x) → c.HeldBy folder request.body) := by
  intro image served
  refine ⟨⟨client.map_fst_serveAll folder calls network,
    client.requests_serveAll folder calls network⟩, ?_, ?_⟩
  · rintro before c after rfl
    exact ⟨_, client.getElem?_serveAll folder before after c network,
      Client.delivers_serve network _ c⟩
  · intro c
    refine ⟨Client.image?_isSome_iff, fun other => Client.image?_congr, fun request hi => ?_⟩
    have hsends := Client.sends_of_image hi
    exact ⟨hsends, Call.heldBy_of_body hsends.body⟩

/-- The first reply belongs to the order to stop a job if the job before it has no file. -/
theorem calls_delivered_for_sample :
    let client : Client := ⟨"http://[::1]:8080", none⟩
    let calls := [.schedule "job.yaml" none, .stop "1024" .falcon]
    let served := client.serveAll ⟨[]⟩ calls .queueing
    (∃ request, (served.flatMap fun s => s.2.requests) = [request] ∧
      decode? StopRequest request.body = some ⟨"1024", .falcon⟩) ∧
    ∃ s : Served Network (.stop "1024" .falcon),
      served[1]? = some ⟨.stop "1024" .falcon, s⟩ ∧ s.result = .ok () := by
  intro client calls served
  obtain ⟨⟨-, hrequests⟩, hdelivers, hrequest⟩ :=
    calls_delivered_in_order client ⟨[]⟩ .queueing calls
  have hnone : client.image? ⟨[]⟩ Network.queueing.server (.schedule "job.yaml" none) = none := by
    decide +kernel
  obtain ⟨request, hsome⟩ : ∃ request, client.image? ⟨[]⟩ Network.queueing.server
      (.stop "1024" .falcon) = some request :=
    Option.isSome_iff_exists.mp (by decide +kernel)
  obtain ⟨-, -, hheld⟩ := hrequest (.stop "1024" .falcon)
  obtain ⟨s, hs, hdelivered⟩ := hdelivers [.schedule "job.yaml" none] (.stop "1024" .falcon) [] rfl
  refine ⟨⟨request, ?_, (hheld request hsome).2 (by simp [Call.amounts])⟩, s, hs, ?_⟩
  · simp only [served, hrequests, calls, List.filterMap_cons, List.filterMap_nil, hnone, hsome]
  · simp only [List.filterMap_cons, List.filterMap_nil, hnone] at hdelivered
    exact hdelivered.answered request _ hsome rfl

end LaunchDesk
