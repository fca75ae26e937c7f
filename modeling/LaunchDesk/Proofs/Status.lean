import LaunchDesk.Proofs.DecisionTable
import LaunchDesk.Proofs.Launch
import LaunchDesk.Rehearsal

/-!
# What the status of an offer changes

A launch looks at the status of an offer once, to say what goes with it. So of two statuses that go
with machines, neither leads to anything that the other does not lead to, but for an empty line and
a warning or two right behind the schedule call. Without a job the status is not even looked at.

## Implementation notes

The two runs get the same answers and replies. To take this literally, the platform must find its
own status again in the order to start a job, whatever status the program was shown; then a course
with the one status becomes a course with the other by a change of the status alone, and the host
that shows the other status gives it.
-/

namespace LaunchDesk

open Program

namespace StartStatus

/-- Whether a status goes with machines and calls for no word about the job. -/
def isPlain : StartStatus → Bool
  | submitted | launched | unrecognized _ => true
  | _ => false

/-- Whether a status goes with machines that are not quite what the job asks for. -/
def isDoubtful : StartStatus → Bool
  | invalid | blocked => true
  | _ => false

/-- The warning about a job file that may be faulty. -/
def syntaxWarning (name : String) : String :=
  "Please check your " ++ name ++ " file to make sure the syntax is valid, " ++
    "e.g. whether minimum_num_gpus or maximum_cost_per_hour is valid."

/-- The warnings that go with a status, for the job that a file defines. -/
def warnings (file : String) : StartStatus → List String
  | invalid => [syntaxWarning (Path.knownAs file)]
  | blocked =>
      ["Because the value of maximum_cost_per_hour is too low, " ++
          "we can not find exactly matched machines for your job.",
        "But here we still present machines closest to your expected price as below."]
  | _ => []

/-- What is said on a status that goes with machines: its warnings, set off by an empty line. -/
def caveat (file : String) (status : StartStatus) : List Line :=
  if status.isDoubtful then ⟨.info, ""⟩ :: (status.warnings file).map (Line.mk .warn) else []

variable {status : StartStatus}

theorem isMatch_of_isPlain (h : status.isPlain) : status.isMatch := by
  cases status <;> simp_all [isPlain, isMatch]

theorem isMatch_of_isDoubtful (h : status.isDoubtful) : status.isMatch := by
  cases status <;> simp_all [isDoubtful, isMatch]

theorem caveat_of_isPlain (file : String) (h : status.isPlain) : status.caveat file = [] := by
  cases status <;> simp_all [isPlain, caveat, isDoubtful]

theorem caveat_of_isDoubtful (file : String) (h : status.isDoubtful) :
    status.caveat file = ⟨.info, ""⟩ :: (status.warnings file).map (Line.mk .warn) :=
  if_pos h

theorem length_warnings (file : String) (h : status.isDoubtful) :
    (status.warnings file).length = 1 ∨ (status.warnings file).length = 2 := by
  cases status with
  | invalid => exact Or.inl rfl
  | blocked => exact Or.inr rfl
  | _ => cases h

end StartStatus

namespace Offer

/-- The offer under another status. -/
def withStatus (offer : Offer) (status : StartStatus) : Offer :=
  { offer with status := status }

/-- The lines that show the machines of an offer, if it has any. -/
def presentation (offer : Offer) : List Line :=
  if offer.machines.isEmpty then [] else offer.display

variable {offer : Offer}

theorem remarks_of_isMatch (file : String) (hj : offer.jobUrl ≠ "") (hm : offer.status.isMatch) :
    offer.remarks file = offer.status.caveat file := by
  simp only [remarks, interpret_of_job hj, interpretStatus]
  cases hs : offer.status with
  | invalid => rfl
  | blocked => rfl
  | submitted => rfl
  | launched => rfl
  | unrecognized word => rfl
  | queued | bindCreditCardFirst | creditCardQueryFailed => simp [hs, StartStatus.isMatch] at hm

/-- Up to the question, or to the end, all that is said is the caveat and the machines. -/
theorem opening_of_match (offer : Offer) (file : String) (hj : offer.jobUrl ≠ "")
    (hm : offer.status.isMatch) :
    offer.opening file = offer.status.caveat file ++ offer.presentation := by
  rw [opening_eq, remarks_of_isMatch file hj hm]
  simp [question?_eq_launch_iff, hj, hm, presentation]

/-- The question depends on the status no further. -/
theorem question?_withStatus (offer : Offer) {a b : StartStatus} (ha : a.isMatch) (hb : b.isMatch) :
    (offer.withStatus b).question? = (offer.withStatus a).question? := by
  obtain ⟨haq, -⟩ := StartStatus.isMatch_iff.mp ha
  obtain ⟨hbq, -⟩ := StartStatus.isMatch_iff.mp hb
  simp [question?, withStatus, ha, hb, haq, hbq]

end Offer

/-- A call under another status: the order to start a job is the only one that holds a status. -/
def Call.withStatus (status : StartStatus) : Call → Call
  | start offer => start (offer.withStatus status)
  | c => c

/-- An event in which the call, if it is one, is under another status. -/
def Event.withStatus (status : StartStatus) : Event → Event
  | called c => called (c.withStatus status)
  | event => event

/-- An exchange with the same reply, but for another status of the offer in it. -/
def Exchange.withStatus (status : StartStatus) : Exchange → Exchange
  | served (.schedule file group) reply =>
      served (.schedule file group) (reply.map fun offer : Offer => offer.withStatus status)
  | served (.scheduleOnCluster file name) reply =>
      served (.scheduleOnCluster file name) (reply.map fun offer : Offer => offer.withStatus status)
  | served (.start offer) reply => served (.start (offer.withStatus status)) reply
  | x => x

namespace Host

variable {σ : Type}

/-- A host whose platform replies to every schedule call with an offer that is shown under some
status. In the order to start its job the platform finds the status again that it gave itself, so
that all its replies are those of the host. -/
def offering (host : Host σ) (offer : Offer) (status : StartStatus) : Host σ where
  serve := fun c s =>
    match c with
    | .schedule file group =>
        { host.serve (.schedule file group) s with result := .ok (offer.withStatus status) }
    | .scheduleOnCluster file name =>
        { host.serve (.scheduleOnCluster file name) s with result := .ok (offer.withStatus status) }
    | .start started =>
        let served := host.serve (.start (started.withStatus offer.status)) s
        ⟨served.result, served.notes, served.requests, served.state⟩
    | c => host.serve c s
  answer := host.answer

variable {host : Host σ} {offer : Offer} {a : StartStatus} {s t : σ} {course : List Exchange}

/-- What a host gives under one status, it gives under another one as well. -/
theorem Gives.withStatus (h : (host.offering offer a).Gives s course t) (b : StartStatus) :
    (host.offering offer b).Gives s (course.map (Exchange.withStatus b)) t := by
  induction h with
  | done s => exact .done s
  | said tail ih => exact .said ih
  | answered tail ih => exact .answered ih
  | @served s t c course tail ih =>
      cases c with
      | schedule file group => exact .served (c := .schedule file group) ih
      | scheduleOnCluster file name => exact .served (c := .scheduleOnCluster file name) ih
      | start started => exact .served (c := .start (started.withStatus b)) ih
      | confirmCluster clusterId machines =>
          exact .served (c := .confirmCluster clusterId machines) ih
      | stop jobId platform => exact .served (c := .stop jobId platform) ih
      | list projectName platform jobId => exact .served (c := .list projectName platform jobId) ih

end Host

section Courses

variable {order : Order} {offer : Offer} {file : String} {course : List Exchange}
  {r : Except LaunchError Unit} {b : StartStatus}

@[simp] theorem map_withStatus_saying (b : StartStatus) (lines : List Line) :
    (saying lines).map (Exchange.withStatus b) = saying lines := by
  simp [saying, Exchange.withStatus]

@[simp] theorem map_withStatus_stopping (b : StartStatus) {jobId : String}
    (reply : CallResult (.stop jobId .falcon)) :
    (stopping jobId reply).map (Exchange.withStatus b) = stopping jobId reply := by
  simp [stopping, Exchange.withStatus]

theorem Exchange.event_withStatus (b : StartStatus) (x : Exchange) :
    (x.withStatus b).event = x.event.withStatus b := by
  cases x with
  | said line => rfl
  | answered question answer => rfl
  | served c reply => cases c <;> rfl

theorem map_event_withStatus (b : StartStatus) (course : List Exchange) :
    (course.map (Exchange.withStatus b)).map Exchange.event =
      (course.map Exchange.event).map (Event.withStatus b) := by
  rw [List.map_map, List.map_map]
  exact List.map_congr_left fun x _ => x.event_withStatus b

theorem Started.withStatus (h : Started offer course) (b : StartStatus) :
    Started (offer.withStatus b) (course.map (Exchange.withStatus b)) := by
  cases h with
  | refused e => simpa [Exchange.withStatus] using Started.refused e
  | unstarted hu => simpa [Exchange.withStatus] using Started.unstarted hu
  | listed hu reply => simpa [Exchange.withStatus] using Started.listed hu reply

theorem Clustered.withStatus (h : Clustered offer course) (b : StartStatus) :
    Clustered (offer.withStatus b) (course.map (Exchange.withStatus b)) := by
  cases h with
  | unassigned hc =>
      rw [map_withStatus_saying]
      exact .unassigned hc
  | confirmed hc reply =>
      rw [List.map_cons, map_withStatus_saying]
      exact @Clustered.confirmed (offer.withStatus b) _ hc reply

theorem Completed.withStatus (h : Completed order offer course) (b : StartStatus) :
    Completed order (offer.withStatus b) (course.map (Exchange.withStatus b)) := by
  cases h with
  | plain ho hs => exact .plain ho (hs.withStatus b)
  | clustered ho hs => exact .clustered ho (hs.withStatus b)

theorem Schedules.withStatus {first : Exchange} {reply : Except CallError Offer}
    (h : Schedules order file first reply) (b : StartStatus) :
    Schedules order file (first.withStatus b) (reply.map fun offer => offer.withStatus b) := by
  cases h with
  | plain ho reply => exact .plain ho _
  | clustered ho reply => exact .clustered ho _

theorem Schedules.event_eq {first : Exchange} {reply : Except CallError Offer}
    (h : Schedules order file first reply) : first.event = .called (order.scheduling file) := by
  cases h with
  | plain ho reply => simp [Exchange.event, Order.scheduling, ho]
  | clustered ho reply => simp [Exchange.event, Order.scheduling, ho]

/-- Behind the schedule call, another status that leads to the same question leads to another
opening and to nothing else. -/
theorem Proceeded.withStatus {a : StartStatus}
    (hq : (offer.withStatus b).question? = (offer.withStatus a).question?)
    (h : Proceeded file (Completed order) (.ok (offer.withStatus a)) course r) :
    ∃ rest, course = saying ((offer.withStatus a).opening file) ++ rest ∧
      Proceeded file (Completed order) (.ok (offer.withStatus b))
        (saying ((offer.withStatus b).opening file) ++ rest.map (Exchange.withStatus b)) r := by
  cases h with
  | unasked ha =>
      refine ⟨[], (List.append_nil _).symm, ?_⟩
      simpa using Proceeded.unasked (hq.trans ha)
  | declined ha hno reply =>
      refine ⟨_, rfl, ?_⟩
      simp only [List.map_cons, List.map_append, map_withStatus_saying, map_withStatus_stopping]
      exact @Proceeded.declined file (Completed order) (offer.withStatus b) _ (hq.trans ha) _ hno
        reply
  | queued ha =>
      refine ⟨_, rfl, ?_⟩
      simpa [Exchange.withStatus] using Proceeded.queued (hq.trans ha)
  | accepted ha hc =>
      refine ⟨_, rfl, ?_⟩
      simpa [Exchange.withStatus] using Proceeded.accepted (hq.trans ha) (hc.withStatus b)

end Courses

section Launches

variable {σ : Type} {order : Order} {host : Host σ} {offer : Offer} {file : String}
  {others : List String} {a b : StartStatus}

/-- The reply to the schedule call is the offer of the host. -/
theorem Host.Gives.offered {s t : σ} {first : Exchange} {reply : Except CallError Offer}
    {course : List Exchange} (h : (host.offering offer a).Gives s (first :: course) t)
    (hs : Schedules order file first reply) : reply = .ok (offer.withStatus a) := by
  cases hs with
  | plain ho reply =>
      cases h with
      | served tail => rfl
  | clustered ho reply =>
      cases h with
      | served tail => rfl

/-- Two launches with offers that lead to the same question, of which the one goes through the
course of the other, but for what is said first and for the status of the job that is started. -/
theorem launch_takes_withStatus (host : Host σ) (hf : order.files = file :: others)
    (hq : (offer.withStatus b).question? = (offer.withStatus a).question?) (s : σ) :
    ∃ first rest r t, first.event = .called (order.scheduling file) ∧
      Takes (host.offering offer a) (launch order) s
        (first :: (saying ((offer.withStatus a).opening file) ++ rest)) r t ∧
      Takes (host.offering offer b) (launch order) s
        (first.withStatus b ::
          (saying ((offer.withStatus b).opening file) ++ rest.map (Exchange.withStatus b)))
        r t := by
  have hlaunched := launched_run order (host.offering offer a) s
  have hgives := gives_history (host.offering offer a) (launch order) s
  have htakes : Takes (host.offering offer a) (launch order) s
      ((launch order).history (host.offering offer a) s) _ _ := ⟨rfl, rfl, rfl⟩
  generalize (launch order).history (host.offering offer a) s = course at hlaunched hgives htakes
  generalize ((launch order).run (host.offering offer a) s).result = r at hlaunched htakes
  cases hlaunched with
  | noFile hno => simp [hf] at hno
  | @scheduled file' others' hf' first reply hs course r hp =>
      obtain ⟨rfl, -⟩ := List.cons.inj (hf.symm.trans hf')
      obtain rfl := hgives.offered hs
      obtain ⟨rest, rfl, hb⟩ := hp.withStatus hq
      refine ⟨first, rest, r, _, hs.event_eq, htakes, takes_iff.mpr ⟨?_, ?_⟩⟩
      · exact course_launch_iff.mpr (.scheduled hf (hs.withStatus b) hb)
      · -- The lines make no difference to the host, and all else is given under either status.
        have hgivesb := gives_repliesOf.mpr (hgives.withStatus b)
        rw [List.map_cons, List.map_append, map_withStatus_saying, repliesOf_cons_saying] at hgivesb
        apply gives_repliesOf.mp
        rwa [repliesOf_cons_saying]

/-- An offer without a job is read without a look at its status. -/
theorem interpret_eq_of_noJob (file : String) (hj : offer.jobUrl = "") :
    interpret offer file = (reportNoJob offer.message).bind fun _ => .done (.ok .noJob) := by
  simp [interpret, Offer.hasJob, hj]

theorem proceed_of_noJob (complete : Offer → Program Unit) (file : String)
    (hj : offer.jobUrl = "") (c : StartStatus) :
    proceed file complete (.ok (offer.withStatus c)) =
      (reportNoJob offer.message).bind fun _ =>
        .log ⟨.debug, .negotiation, "Negotiation for job " ++ offer.jobId ++ " ended: " ++
          Outcome.noJob.describe⟩ (.done (.ok ())) := by
  have hinterpret : interpret (offer.withStatus c) file =
      (reportNoJob offer.message).bind fun _ => .done (.ok .noJob) := interpret_eq_of_noJob file hj
  simp only [proceed, negotiate, decideOn, hinterpret]
  cases offer.message <;> rfl

theorem proceed_run_of_noJob (complete : Offer → Program Unit) (file : String)
    (hj : offer.jobUrl = "") (s : σ) :
    (proceed file complete (.ok (offer.withStatus b))).run (host.offering offer b) s =
      (proceed file complete (.ok (offer.withStatus a))).run (host.offering offer a) s := by
  rw [proceed_of_noJob complete file hj, proceed_of_noJob complete file hj]
  have hleads : ∃ lines, ((reportNoJob offer.message).bind fun _ =>
      .log ⟨.debug, .negotiation, "Negotiation for job " ++ offer.jobId ++ " ended: " ++
        Outcome.noJob.describe⟩ (.done (.ok ()))).LeadsTo lines
          (.done (.ok () : Except LaunchError Unit)) := by
    cases offer.message with
    | none => exact ⟨_, .say (.log (.here _))⟩
    | some text => exact ⟨_, .say (.log (.here _))⟩
  obtain ⟨lines, hl⟩ := hleads
  exact hl.run_done_eq _ _ s

/-- Without a job the status makes no difference at all, not even to the log. -/
theorem launch_run_of_noJob (order : Order) (hj : offer.jobUrl = "") (s : σ) :
    (launch order).run (host.offering offer b) s =
      (launch order).run (host.offering offer a) s := by
  have hfile : ∀ (file : String) (s : σ),
      (launchFile file order.cluster order.group).run (host.offering offer b) s =
        (launchFile file order.cluster order.group).run (host.offering offer a) s := by
    intro file s
    cases order.cluster with
    | none => exact congrArg (Run.after _) (proceed_run_of_noJob startJob file hj _)
    | some name => exact congrArg (Run.after _) (proceed_run_of_noJob startOnCluster file hj _)
  unfold launch
  cases order.files with
  | nil => rfl
  | cons file others =>
      cases others with
      | nil => exact hfile file s
      | cons other others => exact congrArg (Run.after _) (hfile file s)

end Launches

/-- A run under some status goes like another one: it has the same result, leaves its host in the
same state, and does the same, but for the status in the order to start a job. -/
structure Run.Restated {σ α : Type} (run : Run σ α) (status : StartStatus) (other : Run σ α) :
    Prop where
  result : other.result = run.result
  state : other.state = run.state
  acts : Trace.acts other.trace = (Trace.acts run.trace).map (Event.withStatus status)

section Runs

variable {σ : Type} {order : Order} {host : Host σ} {offer : Offer} {file : String}
  {others : List String} {a b : StartStatus}

theorem opening_of_noJob (offer : Offer) (file : String) (hj : offer.jobUrl = "") :
    offer.opening file = (reportNoJob offer.message).said := by
  have hq : offer.question? = none := if_pos hj
  rw [opening_eq, hq, if_neg (by simp), List.append_nil, Offer.remarks,
    interpret_eq_of_noJob file hj]
  cases offer.message <;> rfl

/-- Plain statuses are passed over in silence. -/
theorem opening_withStatus_of_isPlain (file : String) (ha : a.isPlain) (hb : b.isPlain) :
    (offer.withStatus b).opening file = (offer.withStatus a).opening file := by
  by_cases hj : offer.jobUrl = ""
  · exact (opening_of_noJob (offer.withStatus b) file hj).trans
      (opening_of_noJob (offer.withStatus a) file hj).symm
  · have hplain : ∀ c : StartStatus, c.isPlain →
        (offer.withStatus c).opening file = offer.presentation := by
      intro c hc
      have hopening := Offer.opening_of_match (offer.withStatus c) file hj
        (StartStatus.isMatch_of_isPlain hc)
      rwa [show (offer.withStatus c).status.caveat file = [] from
        StartStatus.caveat_of_isPlain file hc, List.nil_append] at hopening
    rw [hplain a ha, hplain b hb]

/-- Under two plain statuses a launch does the same. -/
theorem launch_restated (order : Order) (host : Host σ) (offer : Offer) (s : σ)
    (ha : a.isPlain) (hb : b.isPlain) :
    ((launch order).run (host.offering offer a) s).Restated b
      ((launch order).run (host.offering offer b) s) := by
  cases hf : order.files with
  | nil =>
      rw [launch_of_noFile hf]
      exact ⟨rfl, rfl, rfl⟩
  | cons file others =>
      have hq := Offer.question?_withStatus offer (StartStatus.isMatch_of_isPlain ha)
        (StartStatus.isMatch_of_isPlain hb)
      obtain ⟨first, rest, r, t, -, hta, htb⟩ := launch_takes_withStatus host hf hq s
      rw [opening_withStatus_of_isPlain file ha hb] at htb
      refine ⟨htb.result.trans hta.result.symm, htb.state.trans hta.state.symm, ?_⟩
      rw [hta.acts_eq, htb.acts_eq, ← map_event_withStatus]
      simp

/-- What a launch does up to the machines. -/
theorem event_opening {c : StartStatus} (file : String) (hj : offer.jobUrl ≠ "") (hc : c.isMatch) :
    (saying ((offer.withStatus c).opening file)).map Exchange.event =
      (c.caveat file).map .said ++ offer.presentation.map .said := by
  rw [Offer.opening_of_match (offer.withStatus c) file hj hc, saying, List.map_map,
    List.map_append]
  rfl

theorem withStatus_scheduling (b : StartStatus) (order : Order) (file : String) :
    (Event.called (order.scheduling file)).withStatus b = .called (order.scheduling file) := by
  unfold Order.scheduling
  split <;> rfl

/-- Under a doubtful status a launch does what it does under a plain one, and says the caveat
before. -/
theorem launch_cautioned (host : Host σ) (s : σ) (hf : order.files = file :: others)
    (hj : offer.jobUrl ≠ "") (ha : a.isDoubtful) (hb : b.isPlain) :
    let run := fun status => (launch order).run (host.offering offer status) s
    (run b).result = (run a).result ∧ (run b).state = (run a).state ∧ ∃ rest,
      Trace.acts (run a).trace =
        .called (order.scheduling file) :: ((a.caveat file).map .said ++
          (offer.presentation.map .said ++ rest)) ∧
      Trace.acts (run b).trace =
        .called (order.scheduling file) ::
          (offer.presentation.map .said ++ rest.map (Event.withStatus b)) := by
  intro run
  have hma := StartStatus.isMatch_of_isDoubtful ha
  have hmb := StartStatus.isMatch_of_isPlain hb
  obtain ⟨first, rest, r, t, hfirst, hta, htb⟩ :=
    launch_takes_withStatus host hf (Offer.question?_withStatus offer hma hmb) s
  refine ⟨htb.result.trans hta.result.symm, htb.state.trans hta.state.symm,
    rest.map Exchange.event, ?_, ?_⟩
  · rw [hta.acts_eq, List.map_cons, List.map_append, hfirst, event_opening file hj hma,
      List.append_assoc]
  · rw [htb.acts_eq, List.map_cons, List.map_append, Exchange.event_withStatus, hfirst,
      withStatus_scheduling, map_event_withStatus, event_opening file hj hmb,
      StartStatus.caveat_of_isPlain file hb, List.map_nil, List.nil_append]

end Runs

/-- The status of an offer that goes with machines makes no difference to a launch but for what is
said on it. Under two plain statuses a launch does the same, whatever they are, up to the status in
the order to start the job. Under a doubtful one there is more between the schedule call and the
machines: an empty line, and a warning or two. Without a job any two statuses lead to the same run,
the log included. -/
theorem status_decides_on_warnings_only {σ : Type} (order : Order) (host : Host σ) (s : σ)
    (offer : Offer) (a b : StartStatus) :
    let run := fun status => (launch order).run (host.offering offer status) s
    (a.isPlain → b.isPlain → (run a).Restated b (run b)) ∧
    (a.isDoubtful → b.isPlain → offer.jobUrl ≠ "" → ∀ file others, order.files = file :: others →
      (run b).result = (run a).result ∧ (run b).state = (run a).state ∧
      ((a.warnings file).length = 1 ∨ (a.warnings file).length = 2) ∧
      ∃ rest,
        Trace.acts (run a).trace =
          .called (order.scheduling file) :: .said ⟨.info, ""⟩ ::
            ((a.warnings file).map fun text => .said ⟨.warn, text⟩) ++
          (offer.presentation.map .said ++ rest) ∧
        Trace.acts (run b).trace =
          .called (order.scheduling file) ::
          (offer.presentation.map .said ++ rest.map (Event.withStatus b))) ∧
    (order.files = [] ∨ offer.jobUrl = "" → run b = run a) := by
  intro run
  refine ⟨fun ha hb => launch_restated order host offer s ha hb, ?_, ?_⟩
  · intro ha hb hj file others hf
    obtain ⟨hresult, hstate, rest, hacts, hplain⟩ := launch_cautioned host s hf hj ha hb
    refine ⟨hresult, hstate, StartStatus.length_warnings file ha, rest, ?_, hplain⟩
    rw [hacts, StartStatus.caveat_of_isDoubtful file ha]
    simp
  · rintro (hf | hj)
    · simp only [run, launch_of_noFile hf]
      rfl
    · exact launch_run_of_noJob order hj s

/-- A status that no one has heard of leads to the launch of a job that was launched, and a blocked
one to this launch with two warnings more. -/
theorem launch_under_three_statuses :
    let host := (Rehearsal.smooth (.sample .submitted)).host
    let run := fun status =>
      (launch ⟨["job.yaml"], none, none⟩).run (host.offering (.sample .submitted) status) [.ok true]
    (run (.unrecognized "NEW")).Restated .launched (run .launched) ∧
      (run .launched).result = (run .blocked).result ∧
      ∃ rest, Trace.acts (run .blocked).trace =
        .called (.schedule "job.yaml" none) :: .said ⟨.info, ""⟩ ::
          ((StartStatus.blocked.warnings "job.yaml").map fun text => .said ⟨.warn, text⟩) ++
        ((Offer.sample .submitted).presentation.map .said ++ rest) := by
  intro host run
  have hword := status_decides_on_warnings_only ⟨["job.yaml"], none, none⟩ host [.ok true]
    (.sample .submitted) (.unrecognized "NEW") .launched
  have hblocked := status_decides_on_warnings_only ⟨["job.yaml"], none, none⟩ host [.ok true]
    (.sample .submitted) .blocked .launched
  obtain ⟨hresult, -, -, rest, hacts, -⟩ := hblocked.2.1 rfl rfl (by decide) "job.yaml" [] rfl
  exact ⟨hword.1 rfl rfl, hresult, rest, hacts⟩

end LaunchDesk
