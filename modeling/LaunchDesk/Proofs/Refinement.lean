import LaunchDesk.Proofs.CallLanguage
import LaunchDesk.Proofs.Cancellation
import LaunchDesk.Proofs.Consent
import LaunchDesk.Proofs.Requests
import LaunchDesk.Proofs.Wire.RoundTrip

/-!
# Launches over the network

A launch over the network is a launch with a platform that just says what the client made of the
replies: it ends the same, and shows and asks the same. Its requests are those of its calls, so
what holds of the calls holds of what the server sees: a job that nobody wants is stopped once and
last of all, and nothing is launched that the user has not seen and said yes to.

## Implementation notes

The answers of the user come from a source of their own, so that they are the same on both sides.
What a request is for is told by its body alone: no two kinds of requests share a text, while their
addresses have the same path if the address of the platform ends in a fragment.
-/

namespace LaunchDesk

open Http Program

/-- A host put together from a platform and a user. -/
def Host.of {σ τ : Type} (serve : (c : Call) → σ → Served σ c)
    (answer : String → τ → Answer × τ) : Host (σ × τ) where
  serve := fun c s =>
    ⟨(serve c s.1).result, (serve c s.1).notes, (serve c s.1).requests, (serve c s.1).state, s.2⟩
  answer := fun question s => ((answer question s.2).1, s.1, (answer question s.2).2)

/-- A platform that gives the outcomes of a record, one after the other. -/
def playBack (c : Call) : List (Σ d : Call, CallResult d) →
    Served (List (Σ d : Call, CallResult d)) c
  | ⟨d, result⟩ :: rest =>
      if h : d = c then ⟨h ▸ result, [], [], rest⟩ else ⟨.error (.badReply ""), [], [], rest⟩
  | [] => ⟨.error (.badReply ""), [], [], []⟩

section PlayBack

variable {σ τ α : Type} {serve : (c : Call) → σ → Served σ c} {answer : String → τ → Answer × τ}

/-- A program takes the same course with a platform and with a record of what it said. -/
theorem history_playBack (p : Program α) (s : σ) (t : τ) :
    p.history (.of playBack answer)
        ((p.history (.of serve answer) (s, t)).filterMap Exchange.outcome?, t) =
      p.history (.of serve answer) (s, t) := by
  induction p generalizing s t with
  | done a => rfl
  | say line next ih => exact congrArg _ (ih s t)
  | log entry next ih => exact ih s t
  | ask question next ih => exact congrArg _ (ih _ s _)
  | call c next ih =>
      have htail := ih (serve c s).result (serve c s).state t
      simp only [history, Host.of, List.filterMap_cons, Exchange.outcome?, playBack, dite_true]
      exact congrArg _ htail

theorem result_playBack (p : Program α) (s : σ) (t : τ) :
    (p.run (.of playBack answer)
        ((p.history (.of serve answer) (s, t)).filterMap Exchange.outcome?, t)).result =
      (p.run (.of serve answer) (s, t)).result := by
  induction p generalizing s t with
  | done a => rfl
  | say line next ih => exact ih s t
  | log entry next ih => exact ih s t
  | ask question next ih => exact ih _ s _
  | call c next ih =>
      have htail := ih (serve c s).result (serve c s).state t
      simp only [history, Host.of, List.filterMap_cons, Exchange.outcome?, run_call,
        Run.result_after, playBack, dite_true]
      exact htail

end PlayBack

theorem Client.serves_of {τ : Type} (client : Client) (folder : Folder)
    (answer : String → τ → Answer × τ) :
    client.Serves folder (.of (client.serve folder) answer) Prod.fst :=
  ⟨fun _ _ => rfl, fun _ _ => rfl, fun _ _ => rfl, fun _ _ => rfl⟩

namespace Http.Request

/-- A request carries a record of a type: its body is the text of one. -/
def Carries (r : Request) (t : RecordType) : Prop :=
  ∃ v : t.Value, r.body = encode v

/-- A request to find machines for a job. -/
def IsSchedule (r : Request) : Prop :=
  r.Carries .scheduleRequest

/-- A request to stop a job. -/
def IsStop (r : Request) : Prop :=
  r.Carries .stopRequest

/-- A request that launches a job: to start it, or to take a cluster for it. -/
def IsLaunch (r : Request) : Prop :=
  r.Carries .startRequest ∨ r.Carries .clusterRequest

end Http.Request

section Kinds

/-- The type of the request behind a call. -/
def Call.requestType : Call → RecordType
  | schedule .. | scheduleOnCluster .. => .scheduleRequest
  | start .. => .startRequest
  | confirmCluster .. => .clusterRequest
  | stop .. => .stopRequest
  | list .. => .listRequest

/-- The types of requests. -/
def requestTypes : List RecordType :=
  [.scheduleRequest, .startRequest, .clusterRequest, .stopRequest, .listRequest]

theorem Call.requestType_mem (c : Call) : c.requestType ∈ requestTypes := by
  cases c <;> simp [requestType, requestTypes]

/-- The type of the request that a document holds, told by the first names. -/
def requestType? : Json → Option RecordType
  | .obj ((some "job_file_name", _) :: _) => some .scheduleRequest
  | .obj ((some "cluster_id", _) :: _) => some .clusterRequest
  | .obj ((some "project_name", _) :: _) => some .listRequest
  | .obj ((some "job_id", _) :: (some "platform", _) :: _) => some .stopRequest
  | .obj ((some "job_id", _) :: _) => some .startRequest
  | _ => none

theorem requestType?_write {t : RecordType} (ht : t ∈ requestTypes) (v : t.Value) :
    requestType? ((Codec.of t.Value).write v) = some t := by
  cases t with
  | scheduleRequest | stopRequest | listRequest | clusterRequest => rfl
  | startRequest =>
      obtain ⟨jobId, project, name⟩ := (v : StartRequest)
      cases project <;> cases name <;> rfl
  | offer | machine | receipt | jobRecord | jobList | clusterReply => simp [requestTypes] at ht

theorem parse?_encode (r : RecordType) (v : r.Value) :
    Json.parse? (encode v) = some ((Codec.of r.Value).write v) :=
  Json.parse?_render (written_record r v)

/-- Requests with the same text are of the same type. -/
theorem requestType_eq {t u : RecordType} (ht : t ∈ requestTypes) (hu : u ∈ requestTypes)
    {v : t.Value} {w : u.Value} (h : encode v = encode w) : t = u := by
  have hdoc : (Codec.of u.Value).write w = (Codec.of t.Value).write v := by
    have hv := parse?_encode t v
    rw [h, parse?_encode u w] at hv
    exact Option.some.inj hv
  have hw := requestType?_write hu w
  rw [hdoc, requestType?_write ht v] at hw
  exact Option.some.inj hw

/-- What a call sends is the text of a request of its type. -/
theorem Call.body_eq {c : Call} {folder : Folder} {body : String} (h : c.body folder = .ok body) :
    ∃ v : c.requestType.Value, body = encode v := by
  have hschedule : ∀ file group cluster,
      (scheduleRequest folder file group cluster).map encode = .ok body →
        ∃ v : ScheduleRequest, body = encode v := by
    intro file group cluster hb
    cases hr : scheduleRequest folder file group cluster with
    | error e =>
        rw [hr] at hb
        cases hb
    | ok v =>
        rw [hr] at hb
        exact ⟨v, (Except.ok.inj hb).symm⟩
  cases c with
  | schedule file group => exact hschedule _ _ _ h
  | scheduleOnCluster file cluster => exact hschedule _ _ _ h
  | start | confirmCluster | stop | list => exact ⟨_, (Except.ok.inj h).symm⟩

variable {client : Client} {folder : Folder} {server : Option Origin} {c : Call} {r : Request}

/-- The request of a call carries a record of the type of the call, and of no other one. -/
theorem Client.carries_iff (h : client.image? folder server c = some r) {t : RecordType}
    (ht : t ∈ requestTypes) : r.Carries t ↔ c.requestType = t := by
  obtain ⟨body, url, hb, -, -, -, -, rfl⟩ := image?_eq_some_iff.mp h
  obtain ⟨v, hv⟩ := Call.body_eq hb
  constructor
  · rintro ⟨w, hw⟩
    exact requestType_eq c.requestType_mem ht (hv.symm.trans hw)
  · rintro rfl
    exact ⟨v, hv⟩

theorem Client.isStop_iff (h : client.image? folder server c = some r) :
    r.IsStop ↔ c.isStop := by
  rw [Request.IsStop, carries_iff h (by simp [requestTypes])]
  cases c <;> simp [Call.requestType, Call.isStop]

theorem Client.isLaunch_iff (h : client.image? folder server c = some r) :
    r.IsLaunch ↔ c.isLaunch := by
  rw [Request.IsLaunch, carries_iff h (by simp [requestTypes]),
    carries_iff h (by simp [requestTypes])]
  cases c <;> simp [Call.requestType, Call.isLaunch]

theorem Client.isSchedule_of_scheduling {order : Order} {file : String}
    (h : client.image? folder server (order.scheduling file) = some r) : r.IsSchedule := by
  rw [Request.IsSchedule, carries_iff h (by simp [requestTypes])]
  unfold Order.scheduling
  split <;> rfl

end Kinds

section Sequences

variable {order : Order} {course : List Exchange} {calls : List Call} {c : Call}
  {r : Except LaunchError Unit}

/-- A call that launches a job comes right behind the schedule call, and nothing else is launched or
stopped behind it. -/
theorem CallSequence.launches (h : CallSequence order calls) (hc : c ∈ calls) (hl : c.isLaunch) :
    ∃ file others rest, order.files = file :: others ∧ calls = order.scheduling file :: c :: rest ∧
      ∀ d ∈ rest, d.isLaunch = false ∧ d.isStop = false := by
  cases h with
  | noFile hf => cases hc
  | scheduled hf =>
      obtain rfl := List.mem_singleton.mp hc
      simp at hl
  | stopped hf jobId =>
      rcases List.mem_pair.mp hc with rfl | rfl
      · simp at hl
      · cases hl
  | @started file others hf ho offer hq =>
      rcases List.mem_pair.mp hc with rfl | rfl
      · simp at hl
      · exact ⟨file, others, [], hf, rfl, by simp⟩
  | @listed file others hf ho offer hq projectName jobId =>
      rcases List.mem_cons.mp hc with rfl | hc
      · simp at hl
      · rcases List.mem_pair.mp hc with rfl | rfl
        · exact ⟨file, others, _, hf, rfl, by simp [Call.isLaunch, Call.isStop]⟩
        · cases hl
  | @confirmed file others name hf ho offer hq cluster hcluster =>
      rcases List.mem_pair.mp hc with rfl | rfl
      · simp at hl
      · exact ⟨file, others, [], hf, rfl, by simp⟩

/-- A call to stop a job is the second of two. -/
theorem CallSequence.stops {jobId : String} (h : CallSequence order calls)
    (hc : calls.getLast? = some (.stop jobId .falcon)) :
    ∃ file others, order.files = file :: others ∧
      calls = [order.scheduling file, .stop jobId .falcon] := by
  cases h with
  | noFile hf => cases hc
  | @scheduled file others hf =>
      have heq : order.scheduling file = .stop jobId .falcon := Option.some.inj hc
      have hkind := order.isStop_scheduling file
      rw [heq] at hkind
      cases hkind
  | @stopped file others hf other =>
      cases hc
      exact ⟨file, others, hf, rfl⟩
  | started hf ho hq => cases hc
  | listed hf ho hq projectName other => cases hc
  | confirmed hf ho hq hcluster => cases hc

/-- Behind an offer that is turned down there is one call, the order to stop its job. -/
theorem Launched.callsOf_turnedDown (h : Launched order course r) {offer : Offer}
    (ht : TurnedDown course offer) :
    ∃ file first, first ∈ course ∧ Schedules order file first (.ok offer) ∧
      callsOf course = [order.scheduling file, .stop offer.jobId .falcon] := by
  obtain ⟨file, others, first, rest, hf, rfl, hs⟩ := h.offered ht.offered
  rcases launched_stops h with ⟨other, front, hwho, -, hcalls⟩ | hkept
  · obtain rfl := (hwho offer).mp ht
    obtain ⟨file', others', hf', hpair⟩ := (callSequence_of_launched h).stops
      (hcalls ▸ List.getLast?_concat)
    obtain ⟨rfl, rfl⟩ := List.cons.inj (hf.symm.trans hf')
    exact ⟨file, first, List.mem_cons_self, hs, hpair⟩
  · exact absurd ht (hkept.wanted offer)

end Sequences

/-- What the server sees of what the user decides. -/
structure Heeded (order : Order) (course : List Exchange) (image : Call → Option Request)
    (requests : List Request) : Prop where
  /-- A job is stopped exactly if the user turned away from it. -/
  stops : (∃ r ∈ requests, r.IsStop) ↔ ∃ offer, TurnedDown course offer
  /-- It is stopped once, by the last of all requests. -/
  stopped : ∀ offer, TurnedDown course offer → ∃ schedule stop, requests = [schedule, stop] ∧
    schedule.IsSchedule ∧ ¬ schedule.IsStop ∧
    stop.body = encode (StopRequest.mk offer.jobId .falcon)
  /-- What is launched was shown before and got a yes; it is launched once, right behind the request
  that scheduled it, and nothing is stopped. -/
  launches : ∀ r ∈ requests, r.IsLaunch → ∃ schedule c offer rest,
    requests = schedule :: r :: rest ∧ schedule.IsSchedule ∧ ¬ schedule.IsLaunch ∧
    image c = some r ∧ Informed order course c offer ∧
    ∀ other ∈ requests, ¬ other.IsStop ∧ (other ∈ rest → ¬ other.IsLaunch)
  /-- A yes launches what can be launched. -/
  launched : ∀ offer ∈ offersOf course, .answered launchQuestion (.ok true) ∈ course →
    ∀ r, r ∈ requests ∧ r.IsLaunch ↔ ∃ c ∈ order.launching offer, image c = some r

section Laws

variable {σ : Type} {client : Client} {folder : Folder} {host : Host σ} {network : σ → Network}

theorem requests_of_turnedDown (h : client.Serves folder host network) {order : Order} {s : σ}
    {offer : Offer} (ht : TurnedDown ((launch order).history host s) offer) :
    ∃ schedule stop, Trace.requests ((launch order).run host s).trace = [schedule, stop] ∧
      schedule.IsSchedule ∧ ¬ schedule.IsStop ∧
      client.image? folder (network s).server (.stop offer.jobId .falcon) = some stop := by
  obtain ⟨file, first, hm, hs, hcalls⟩ := (launched_run order host s).callsOf_turnedDown ht
  obtain ⟨schedule, stop, hrequests, hschedule, hstop⟩ := requests_stopped h _ s hs hm hcalls
  refine ⟨schedule, stop, hrequests, Client.isSchedule_of_scheduling hschedule, ?_, hstop⟩
  simp [Client.isStop_iff hschedule]

/-- A request that launches a job comes from a call that does, with all that comes before it. -/
theorem requests_of_launching (h : client.Serves folder host network) {order : Order} {s : σ}
    {c : Call} {offer : Offer} {r : Request} (hc : c ∈ callsOf ((launch order).history host s))
    (hl : c.isLaunch) (hr : client.image? folder (network s).server c = some r)
    (hi : Informed order ((launch order).history host s) c offer) :
    ∃ schedule rest, Trace.requests ((launch order).run host s).trace = schedule :: r :: rest ∧
      schedule.IsSchedule ∧ ¬ schedule.IsLaunch ∧
      (∀ other ∈ rest, ¬ other.IsLaunch) := by
  have hlaunched := launched_run order host s
  have ho : offer ∈ offersOf ((launch order).history host s) := by simp [hi.offered]
  obtain ⟨file, others, first, tail, hf, hcourse, hs⟩ := hlaunched.offered ho
  have hm : first ∈ (launch order).history host s := by simp [hcourse]
  obtain ⟨schedule, hschedule⟩ := image?_of_offered h _ s hs hm
  obtain ⟨file', others', rest, hf', hcalls, hrest⟩ :=
    (callSequence_of_launched hlaunched).launches hc hl
  obtain ⟨rfl, -⟩ := List.cons.inj (hf.symm.trans hf')
  refine ⟨schedule, rest.filterMap (client.image? folder (network s).server), ?_,
    Client.isSchedule_of_scheduling hschedule, ?_, ?_⟩
  · rw [requests_run h, hcalls]
    simp [hschedule, hr]
  · simp [Client.isLaunch_iff hschedule]
  · intro other hother
    obtain ⟨d, hd, hother⟩ := List.mem_filterMap.mp hother
    simp [Client.isLaunch_iff hother, (hrest d hd).1]

theorem Informed.not_isStop {order : Order} {course : List Exchange} {c d : Call} {offer : Offer}
    (h : Informed order course c offer) (hd : d ∈ callsOf course) : ¬ d.isStop := by
  cases d with
  | stop jobId platform => exact absurd hd (h.notStopped jobId platform)
  | _ => exact Bool.false_ne_true

/-- The requests of a launch obey the user as its calls do. -/
theorem heeded_of_launched (h : client.Serves folder host network) (order : Order) (s : σ) :
    Heeded order ((launch order).history host s) (client.image? folder (network s).server)
      (Trace.requests ((launch order).run host s).trace) where
  stops := by
    constructor
    · rintro ⟨r, hr, hstop⟩
      obtain ⟨c, hc, hr⟩ := (mem_requests_iff h).mp hr
      have hkind : c.isStop = true := (Client.isStop_iff hr).mp hstop
      rcases launched_stops (launched_run order host s) with ⟨offer, -, hwho, -⟩ | hkept
      · exact ⟨offer, (hwho offer).mpr rfl⟩
      · exact absurd hkind (List.filter_eq_nil_iff.mp hkept.stops c hc)
    · rintro ⟨offer, ht⟩
      obtain ⟨schedule, stop, hrequests, -, -, hstop⟩ := requests_of_turnedDown h ht
      exact ⟨stop, by simp [hrequests], (Client.isStop_iff hstop).mpr rfl⟩
  stopped := by
    intro offer ht
    obtain ⟨schedule, stop, hrequests, hkind, hno, hstop⟩ := requests_of_turnedDown h ht
    exact ⟨schedule, stop, hrequests, hkind, hno,
      (Except.ok.inj (Client.sends_of_image hstop).body).symm⟩
  launches := by
    intro r hr hlaunch
    obtain ⟨c, hc, hr⟩ := (mem_requests_iff h).mp hr
    have hkind : c.isLaunch = true := (Client.isLaunch_iff hr).mp hlaunch
    rcases launched_cases (launched_run order host s) with ⟨-, hnone⟩ | ⟨offer, -, hl, hi⟩
    · exact absurd hkind (List.filter_eq_nil_iff.mp hnone c hc)
    · have hinformed := hi c (hl ▸ List.mem_filter.mpr ⟨hc, hkind⟩)
      obtain ⟨schedule, rest, hrequests, hschedule, hfirst, hrest⟩ :=
        requests_of_launching h hc hkind hr hinformed
      refine ⟨schedule, c, offer, rest, hrequests, hschedule, hfirst, hr, hinformed,
        fun other hother => ⟨?_, hrest other⟩⟩
      obtain ⟨d, hd, hother⟩ := (mem_requests_iff h).mp hother
      rw [Client.isStop_iff hother]
      exact hinformed.not_isStop hd
  launched := by
    intro offer ho hyes r
    rcases launched_cases (launched_run order host s) with ⟨hno, -⟩ | ⟨other, hother, hl, -⟩
    · exact absurd hyes hno
    · obtain rfl : offer = other := List.mem_singleton.mp (hother ▸ ho)
      simp only [mem_requests_iff h, ← hl, List.mem_filter]
      constructor
      · rintro ⟨⟨c, hc, hr⟩, hlaunch⟩
        exact ⟨c, ⟨hc, (Client.isLaunch_iff hr).mp hlaunch⟩, hr⟩
      · rintro ⟨c, ⟨hc, hkind⟩, hr⟩
        exact ⟨⟨c, hc, hr⟩, (Client.isLaunch_iff hr).mpr hkind⟩

end Laws

/-- A launch over the network does what it does with a platform that gives the outcomes that the
client has for the calls. Each of these calls has one request, which goes to its service and takes
one reply, or none, for want of a file, an address or a key, or because the address leads to another
server; and the server sees that jobs are stopped and launched as the user decides. -/
theorem launch_refined {τ : Type} (client : Client) (folder : Folder)
    (answer : String → τ → Answer × τ) (order : Order) (network : Network) (t : τ) :
    let run := (launch order).run (.of (client.serve folder) answer) (network, t)
    let outcomes := client.outcomes folder (Trace.calls run.trace) network
    let played := (launch order).run (.of playBack answer) (outcomes, t)
    let course := (launch order).history (.of playBack answer) (outcomes, t)
    let image := client.image? folder network.server
    let requests := Trace.requests run.trace
    (played.result = run.result ∧ Trace.acts played.trace = Trace.acts run.trace) ∧
      requests = (Trace.calls played.trace).filterMap image ∧
      run.state.1 = { network with replies := network.replies.drop requests.length } ∧
      (∀ c, (∀ r, image c = some r → client.Sends folder c r) ∧
        (image c = none ↔
          (∃ file e, c.jobFile? = some file ∧ folder.readText file = .error e) ∨
          (∀ endpoint, c.Endpoint endpoint → ∀ url,
            Url.parse? (client.baseUrl ++ endpoint) = some url → url.isSendable = false) ∨
          client.keyUsable = false ∨
          (∀ endpoint, c.Endpoint endpoint → ∀ url,
            Url.parse? (client.baseUrl ++ endpoint) = some url →
              network.server ≠ some url.origin))) ∧
      Heeded order course image requests := by
  intro run outcomes played course image requests
  have hserves := client.serves_of folder answer
  have houtcomes : outcomes = ((launch order).history (.of (client.serve folder) answer)
      (network, t)).filterMap Exchange.outcome? := by
    rw [outcomes_run hserves, ← calls_run_trace]
  have hcourse : course =
      (launch order).history (.of (client.serve folder) answer) (network, t) := by
    simp only [course, houtcomes]
    exact history_playBack _ network t
  have hacts : Trace.acts played.trace = Trace.acts run.trace := by
    rw [← map_event_history, ← map_event_history]
    exact congrArg _ hcourse
  have hcalls : Trace.calls played.trace = callsOf course := calls_run_trace _ _ _
  refine ⟨⟨?_, hacts⟩, ?_, network_run hserves _ _, fun c => ⟨fun r => Client.sends_of_image, ?_⟩,
    ?_⟩
  · simp only [played, houtcomes]
    exact result_playBack _ network t
  · rw [hcalls, hcourse]
    exact requests_run hserves _ _
  · simp only [← Client.forall_url?_iff]
    exact Client.image?_eq_none_iff
  · rw [hcourse]
    exact heeded_of_launched hserves order (network, t)

/-- A server that replies to the first request with a place in its queue, and to no other one. -/
def Network.queueing : Network where
  server := some ⟨false, "[::1]".toList, 8080⟩
  replies :=
    [some
      { status := 200
        contentType := none
        body := Text.utf8
          "\x7b\"job_id\":\"1024\",\"job_url\":\"https://platform/job\",\"status\":\"QUEUED\"\x7d"
        complete := true }]

/-- A place in the queue that is turned down over the network. -/
theorem launch_refined_for_sample :
    let client : Client := ⟨"http://[::1]:8080", none⟩
    let no : String → Unit → Answer × Unit := fun _ _ => (.ok false, ())
    let host := Host.of (client.serve ⟨[(["job.yaml"], .file [])]⟩) no
    let run := (launch ⟨["job.yaml"], none, none⟩).run host (.queueing, ())
    ∃ schedule stop, Trace.requests run.trace = [schedule, stop] ∧
      schedule.path = "/api/v1/jobs/schedule" ∧ stop.path = "/api/v1/jobs/stop" ∧
      stop.body = encode (StopRequest.mk "1024" .falcon) ∧
      ∀ r ∈ Trace.requests run.trace, r.method = "POST" := by
  intro client no host run
  obtain ⟨-, himage, -, hcalls, hheeded⟩ := launch_refined client ⟨[(["job.yaml"], .file [])]⟩ no
    ⟨["job.yaml"], none, none⟩ .queueing ()
  obtain ⟨schedule, stop, hrequests, -, -, hbody⟩ := hheeded.stopped (.waiting "1024")
    { offered := by decide +kernel
      hasJob := by decide
      declined := Or.inl ⟨rfl, .ok false, answered_mem_iff.mpr (by decide +kernel), by simp⟩ }
  have hpaths : (Trace.requests run.trace).map Request.path =
      ["/api/v1/jobs/schedule", "/api/v1/jobs/stop"] := by
    decide +kernel
  rw [hrequests] at hpaths
  obtain ⟨hschedule, hrest⟩ := List.cons.inj hpaths
  refine ⟨schedule, stop, hrequests, hschedule, (List.cons.inj hrest).1, hbody, fun r hr => ?_⟩
  obtain ⟨c, -, hr⟩ := List.mem_filterMap.mp (himage ▸ hr)
  exact ((hcalls c).1 r hr).method

/-- Behind a fragment no service is reached. -/
theorem services_missed_behind_fragment :
    let client : Client := ⟨"http://[::1]:8080/#x", none⟩
    let no : String → Unit → Answer × Unit := fun _ _ => (.ok false, ())
    let host := Host.of (client.serve ⟨[(["job.yaml"], .file [])]⟩) no
    let run := (launch ⟨["job.yaml"], none, none⟩).run host (.queueing, ())
    let paths := (Trace.requests run.trace).map Request.path
    Trace.calls run.trace = [.schedule "job.yaml" none, .stop "1024" .falcon] ∧
      paths = ["/", "/"] ∧ paths ≠ ["/api/v1/jobs/schedule", "/api/v1/jobs/stop"] := by
  decide +kernel

end LaunchDesk
