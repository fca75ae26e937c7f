import LaunchDesk.Proofs.Deliveries
import LaunchDesk.Proofs.Files
import LaunchDesk.Proofs.Status

/-!
# What is submitted of a job

The platform gets the content of the file that defines a job, character for character, under the
bare name that the path of the file ends on; the rest of the path does not leave the machine. If the
file is no text, a schedule call fails for this reason and sends nothing, and it never fails for
this reason otherwise.

## Implementation notes

Both kinds of schedule call are one request with a group or with a cluster in it, so everything is
said of this request first. The bytes of the file are compared with the UTF-8 of the text in the
request, as a text is all that a JSON document can hold.
-/

namespace LaunchDesk

open Http Program

/-- A text submits a job: it is the text of a schedule request with the name, the definition, and
the group or cluster if there is one, and this is what is read from it, as a request and as a JSON
document. -/
structure Submits (text name definition : String) (group cluster : Option String) : Prop where
  encoded : text = encode (ScheduleRequest.mk name definition group cluster)
  decoded : decode? ScheduleRequest text = some ⟨name, definition, group, cluster⟩
  document : ∃ doc, Json.parse? text = some doc ∧
    doc.member? "job_file_name" = some (.text name) ∧
    doc.member? "job_yaml" = some (.text definition) ∧
    doc.member? "group_id" = group.map .text ∧
    doc.member? "cluster_name" = cluster.map .text
  /-- It holds no character below the blank. -/
  printable : Json.Printable text.toList

theorem submits_encode (name definition : String) (group cluster : Option String) :
    Submits (encode (ScheduleRequest.mk name definition group cluster)) name definition group
      cluster where
  encoded := rfl
  decoded := decode?_encode_of_readsBack (.record .scheduleRequest)
    (ScheduleRequest.mk name definition group cluster)
    (by simp [WireType.amounts, RecordType.amounts])
  document := by
    refine ⟨_, parse?_encode .scheduleRequest _, ?_⟩
    cases group <;> cases cluster <;> exact ⟨rfl, rfl, rfl, rfl⟩
  printable := Json.printable_render _

section Calls

variable {client : Client} {folder : Folder} {c : Call} {network : Network} {file : String}
  {group cluster : Option String}

/-- No response makes a call fail because of a file. -/
theorem Call.outcome_ne_jobFile (c : Call) (response : Response) (path reason : String) :
    c.outcome response ≠ .error (.jobFile path reason) := by
  have hanswer : ∀ {α : Type} (read? : List UInt8 → Option α),
      response.answer read? ≠ .error (.jobFile path reason) := by
    intro α read?
    unfold Response.answer
    split
    · split <;> simp
    · simp [Response.refusal]
  have hmap : ∀ {α β : Type} (read? : List UInt8 → Option α) (f : α → β),
      (response.answer read?).map f ≠ .error (.jobFile path reason) := by
    intro α β read? f h
    cases ha : response.answer read? with
    | error e =>
        rw [ha] at h
        obtain rfl := Except.error.inj h
        exact hanswer read? ha
    | ok a =>
        rw [ha] at h
        cases h
  cases c with
  | schedule | scheduleOnCluster | start => exact hanswer _
  | confirmCluster | list => exact hmap _ _
  | stop =>
      simp only [Call.outcome, Response.consent, Response.refusal]
      split <;> simp

/-- A call fails because of a file exactly if it has no text to send. -/
theorem serve_jobFile_iff {path reason : String} :
    (client.serve folder c network).result = .error (.jobFile path reason) ↔
      c.body folder = .error (.jobFile path reason) := by
  unfold Client.serve
  cases hb : c.body folder with
  | error e => simp
  | ok text =>
      simp only [reduceCtorEq, iff_false]
      cases (client.post c.path text network).outcome with
      | ok response => exact c.outcome_ne_jobFile response path reason
      | error fault => simp

/-- How a call that schedules the job in a file is served. -/
structure Submission (client : Client) (folder : Folder) (network : Network) (file : String)
    (group cluster : Option String) {c : Call} (served : Served Network c) : Prop where
  /-- It fails because of the file exactly if the file is no text that can be read. -/
  refused : (∃ reason, served.result = .error (.jobFile file reason)) ↔
    ¬ ∃ bytes, folder.read file = .ok bytes ∧ IsUtf8 bytes
  /-- Then it sends nothing; and no other file ever makes it fail. -/
  unsent : ∀ path reason, served.result = .error (.jobFile path reason) →
    path = file ∧ served.requests = [] ∧ served.state = network
  /-- What it sends is the content of the file. -/
  verbatim : ∀ request ∈ served.requests, ∃ bytes definition, folder.read file = .ok bytes ∧
    definition.toList.flatMap String.utf8EncodeChar = bytes ∧
    Submits request.body (Path.knownAs file) definition group cluster
  /-- It sends one request if the file is a text, and the key and the address are of use. -/
  delivered : (∃ bytes, folder.read file = .ok bytes ∧ IsUtf8 bytes) → client.keyUsable →
    (∃ url, client.url? "/api/v1/jobs/schedule" = some url ∧ url.isSendable ∧
      network.server = some url.origin) →
    ∃ request, served.requests = [request]

theorem submission_serve (hfile : c.jobFile? = some file) (hpath : c.path = "/api/v1/jobs/schedule")
    (hbody : c.body folder = (Call.scheduleRequest folder file group cluster).map encode) :
    Submission client folder network file group cluster (client.serve folder c network) where
  refused := by
    simp only [serve_jobFile_iff, ← Folder.exists_readText_iff]
    constructor
    · rintro ⟨reason, hreason⟩ ⟨definition, hread⟩
      obtain ⟨text, htext⟩ := Call.exists_body_iff.mpr fun f hf =>
        ⟨definition, by rwa [← Option.some.inj (hfile.symm.trans hf)]⟩
      rw [htext] at hreason
      cases hreason
    · intro hno
      cases htext : c.body folder with
      | ok text =>
          exact absurd (Call.exists_body_iff.mp ⟨text, htext⟩ file hfile) hno
      | error e =>
          obtain ⟨path, reason, hpath, -, rfl⟩ := Call.body_error htext
          obtain rfl := Option.some.inj (hfile.symm.trans hpath)
          exact ⟨_, rfl⟩
  unsent := by
    intro path reason hresult
    have herror := serve_jobFile_iff.mp hresult
    obtain ⟨other, fault, hother, -, he⟩ := Call.body_error herror
    obtain rfl := Option.some.inj (hfile.symm.trans hother)
    refine ⟨(CallError.jobFile.inj he).1, ?_, ?_⟩
    · simp only [Client.serve, herror]
    · simp only [Client.serve, herror]
  verbatim := by
    intro request hrequest
    rw [Client.serve_requests, Option.mem_toList] at hrequest
    obtain ⟨text, url, htext, -, -, -, -, rfl⟩ := Client.image?_eq_some_iff.mp hrequest
    obtain ⟨definition, hread, rfl⟩ := Call.readText_of_scheduleRequest (hbody ▸ htext)
    obtain ⟨bytes, hbytes, hdefinition⟩ := Folder.readText_eq_ok_iff.mp hread
    exact ⟨bytes, definition, hbytes, hdefinition, submits_encode _ _ _ _⟩
  delivered := by
    intro hread hkey haddress
    have hsend : client.CanSend folder network.server c :=
      { file := fun f hf => by
          obtain rfl := Option.some.inj (hfile.symm.trans hf)
          exact Folder.exists_readText_iff.mpr hread
        key := hkey
        address := by rwa [hpath] }
    obtain ⟨request, hrequest⟩ := Option.isSome_iff_exists.mp (Client.image?_isSome_iff.mpr hsend)
    exact ⟨request, by rw [Client.serve_requests, hrequest]; rfl⟩

end Calls

/-- A job is submitted as its file defines it: a schedule call fails because of the file, without a
request, exactly if the file is no text that can be read; otherwise the platform gets the content of
the file, in a queue group if one is named, or for a cluster, whatever its name. -/
theorem definition_sent_verbatim (client : Client) (folder : Folder) (network : Network)
    (file : String) :
    (∀ group : Option String,
      Submission client folder network file (group.filter fun g => !g.isEmpty) none
        (client.serve folder (.schedule file group) network)) ∧
    ∀ cluster : String,
      Submission client folder network file none (some cluster)
        (client.serve folder (.scheduleOnCluster file cluster) network) :=
  ⟨fun _ => submission_serve rfl rfl rfl, fun _ => submission_serve rfl rfl rfl⟩

/-- A byte order mark, a quote, a backslash, a NUL and a line end are submitted as they are, and so
is a cluster without a name. -/
theorem definition_sent_for_sample :
    let client : Client := ⟨"http://[::1]:8080", none⟩
    let content : List UInt8 := [0xEF, 0xBB, 0xBF, 0x22, 0x5C, 0x00, 0x0D, 0x0A]
    let folder : Folder := ⟨[(["jobs", "job.yaml"], .file content)]⟩
    let served := client.serve folder (.scheduleOnCluster "jobs/job.yaml" "") .queueing
    ∃ request definition, served.requests = [request] ∧
      definition.toList.flatMap String.utf8EncodeChar = content ∧
      Submits request.body "job.yaml" definition none (some "") := by
  intro client content folder served
  obtain ⟨-, hcluster⟩ := definition_sent_verbatim client folder .queueing "jobs/job.yaml"
  have hread : folder.read "jobs/job.yaml" = .ok content := by decide +kernel
  have haddress : ∃ url, client.url? "/api/v1/jobs/schedule" = some url ∧ url.isSendable ∧
      Network.queueing.server = some url.origin :=
    ⟨⟨⟨false, "[::1]".toList, 8080⟩, [], "/api/v1/jobs/schedule".toList, []⟩, by decide +kernel,
      by decide +kernel, rfl⟩
  obtain ⟨request, hrequest⟩ := (hcluster "").delivered
    ⟨content, hread, isUtf8_iff.mpr (by decide +kernel)⟩ rfl haddress
  obtain ⟨bytes, definition, hbytes, hdefinition, hsubmits⟩ :=
    (hcluster "").verbatim request (by rw [hrequest]; exact List.mem_singleton_self _)
  obtain rfl := Except.ok.inj (hread.symm.trans hbytes)
  have hname : Path.knownAs "jobs/job.yaml" = "job.yaml" := by decide +kernel
  exact ⟨request, definition, hrequest, hdefinition, hname ▸ hsubmits⟩

section Names

variable {order : Order} {calls : List Call} {course : List Exchange} {c : Call}
  {r : Except LaunchError Unit}

/-- The group that a launch sends: one with a name, unless the launch is on a cluster. -/
def Order.groupSent (order : Order) : Option String :=
  if order.cluster.isSome then none else order.group.filter fun g => !g.isEmpty

theorem Order.body_scheduling (order : Order) (file : String) (folder : Folder) :
    (order.scheduling file).body folder =
      (Call.scheduleRequest folder file order.groupSent order.cluster).map encode := by
  cases hc : order.cluster <;> simp [scheduling, groupSent, hc, Call.body]

/-- The only call of a launch that is about a file is its first one, about its first file. -/
theorem CallSequence.scheduling_of_jobFile? (h : CallSequence order calls) (hc : c ∈ calls)
    {file : String} (hfile : c.jobFile? = some file) :
    ∃ others, order.files = file :: others ∧ c = order.scheduling file := by
  have hfirst : ∀ {first : String} {others : List String}, order.files = first :: others →
      c = order.scheduling first → ∃ others, order.files = file :: others ∧
        c = order.scheduling file := by
    rintro first others hf rfl
    obtain rfl := Option.some.inj ((order.jobFile?_scheduling first).symm.trans hfile)
    exact ⟨others, hf, rfl⟩
  cases h with
  | noFile hf => cases hc
  | scheduled hf => exact hfirst hf (List.mem_singleton.mp hc)
  | stopped hf jobId =>
      rcases List.mem_pair.mp hc with hc | rfl
      · exact hfirst hf hc
      · cases hfile
  | started hf ho hq =>
      rcases List.mem_pair.mp hc with hc | rfl
      · exact hfirst hf hc
      · cases hfile
  | listed hf ho hq projectName jobId =>
      rcases List.mem_cons.mp hc with hc | hc
      · exact hfirst hf hc
      · rcases List.mem_pair.mp hc with rfl | rfl
        · cases hfile
        · cases hfile
  | confirmed hf ho hq hcluster =>
      rcases List.mem_pair.mp hc with hc | rfl
      · exact hfirst hf hc
      · cases hfile

/-- A call that sends a schedule request is about a file. -/
theorem Call.jobFile?_isSome_iff : c.jobFile?.isSome ↔ c.requestType = .scheduleRequest := by
  cases c <;> simp [jobFile?, requestType]

/-- On a job file that may be faulty, a warning with its name comes right behind the schedule
call. -/
theorem Launched.warned (h : Launched order course r) {offer : Offer}
    (ho : offer ∈ offersOf course) (hj : offer.jobUrl ≠ "") (hs : offer.status = .invalid) :
    ∃ file others rest, order.files = file :: others ∧ course.map Exchange.event =
      .called (order.scheduling file) :: .said ⟨.info, ""⟩ ::
        .said ⟨.warn, StartStatus.syntaxWarning (Path.knownAs file)⟩ :: rest := by
  obtain ⟨file, others, first, rest, hf, rfl, hfirst⟩ := h.opened ho
  have hopening := Offer.opening_of_match offer file hj (by rw [hs]; rfl)
  refine ⟨file, others, (saying offer.presentation ++ rest).map Exchange.event, hf, ?_⟩
  rw [List.map_cons, hfirst.event_eq, hopening, hs]
  simp [StartStatus.caveat, StartStatus.isDoubtful, StartStatus.warnings, saying, Exchange.event]

end Names

/-- A job is submitted under the bare name that the path of its file ends on, and the user is warned
of faults in it under this name; of the path, nothing else is sent. -/
theorem name_shown_is_name_submitted {τ : Type} (client : Client) (folder : Folder)
    (answer : String → τ → Answer × τ) (order : Order) (network : Network) (t : τ) :
    let host := Host.of (client.serve folder) answer
    let run := (launch order).run host (network, t)
    let course := (launch order).history host (network, t)
    ∀ request ∈ Trace.requests run.trace, request.IsSchedule →
      ∃ file others name definition, order.files = file :: others ∧
        Path.IsBareName name ∧ Path.EndsOn file name ∧ folder.readText file = .ok definition ∧
        Submits request.body name definition order.groupSent order.cluster ∧
        ∀ offer ∈ offersOf course, offer.jobUrl ≠ "" → offer.status = .invalid →
          ∃ rest, Trace.acts run.trace = .called (order.scheduling file) :: .said ⟨.info, ""⟩ ::
            .said ⟨.warn, StartStatus.syntaxWarning name⟩ :: rest := by
  intro host run course request hrequest hkind
  have hlaunched : Launched order course run.result := launched_run order host (network, t)
  obtain ⟨c, hc, himage⟩ := (mem_requests_iff (client.serves_of folder answer)).mp hrequest
  have htype : c.requestType = .scheduleRequest :=
    (Client.carries_iff himage (by simp [requestTypes])).mp hkind
  obtain ⟨file, hfile⟩ := Option.isSome_iff_exists.mp (Call.jobFile?_isSome_iff.mpr htype)
  obtain ⟨others, hf, rfl⟩ := (callSequence_of_launched hlaunched).scheduling_of_jobFile? hc hfile
  obtain ⟨text, url, htext, -, -, -, -, rfl⟩ := Client.image?_eq_some_iff.mp himage
  rw [Order.body_scheduling] at htext
  obtain ⟨definition, hread, rfl⟩ := Call.readText_of_scheduleRequest htext
  obtain ⟨bytes, hbytes, -⟩ := Folder.readText_eq_ok_iff.mp hread
  obtain ⟨hbare, hends⟩ := Path.knownAs_of_read hbytes
  refine ⟨file, others, Path.knownAs file, definition, hf, hbare, hends, hread,
    submits_encode _ _ _ _, ?_⟩
  intro offer ho hj hs
  obtain ⟨file', others', rest, hf', hcourse⟩ := hlaunched.warned ho hj hs
  obtain ⟨rfl, -⟩ := List.cons.inj (hf.symm.trans hf')
  exact ⟨rest, by rw [← hcourse]; exact (map_event_history host _ _).symm⟩

/-- A server that finds fault with the first job it gets. -/
def Network.faultfinding : Network where
  server := some ⟨false, "[::1]".toList, 8080⟩
  replies :=
    [some
      { status := 200
        contentType := none
        body := Text.utf8
          "\x7b\"job_id\":\"1024\",\"job_url\":\"https://platform/job\",\"status\":\"INVALID\"\x7d"
        complete := true }]

/-- Neither the directory of the file nor the way there is seen. -/
theorem name_shown_for_sample :
    let client : Client := ⟨"http://[::1]:8080", none⟩
    let folder : Folder := ⟨[(["..", "jobs", "train.yaml"], .file [])]⟩
    let order : Order := ⟨["..//jobs/./train.yaml"], none, none⟩
    let run := (launch order).run (.of (client.serve folder) fun _ _ => (.ok true, ()))
      (.faultfinding, ())
    ∃ request definition rest, Trace.requests run.trace = [request] ∧
      Submits request.body "train.yaml" definition none none ∧
      Trace.acts run.trace = .called (order.scheduling "..//jobs/./train.yaml") ::
        .said ⟨.info, ""⟩ :: .said ⟨.warn, StartStatus.syntaxWarning "train.yaml"⟩ :: rest := by
  intro client folder order run
  have hbodies : (Trace.requests run.trace).map Request.body =
      [encode (ScheduleRequest.mk "train.yaml" "" none none)] := by decide +kernel
  obtain ⟨request, hrequest, hbody⟩ := List.map_eq_singleton_iff.mp hbodies
  have hoffer : (Offer.waiting "1024").withStatus .invalid ∈ offersOf ((launch order).history
      (.of (client.serve folder) fun _ _ => (.ok true, ())) (.faultfinding, ())) := by
    decide +kernel
  obtain ⟨file, others, name, definition, hf, hbare, hends, -, hsubmits, hwarned⟩ :=
    name_shown_is_name_submitted client folder (fun _ _ => (.ok true, ())) order .faultfinding ()
      request (by rw [hrequest]; exact List.mem_singleton_self _)
      ⟨ScheduleRequest.mk "train.yaml" "" none none, hbody⟩
  obtain ⟨rfl, -⟩ := List.cons.inj hf
  obtain rfl : "train.yaml" = name := by
    have hbase := Path.baseName?_eq_some_iff.mpr ⟨hbare, hends⟩
    exact Option.some.inj (Eq.trans (by decide +kernel) hbase)
  obtain ⟨rest, hacts⟩ := hwarned _ hoffer (by decide) rfl
  exact ⟨request, definition, rest, hrequest, hsubmits, hacts⟩

end LaunchDesk
