import LaunchDesk.Launch
import LaunchDesk.Proofs.Negotiation

/-!
# What a launch comes to

A launch schedules a job, negotiates on the offer, and completes what was accepted. Its courses are
put together from those of the three parts.

## Implementation notes

Both kinds of launch go through the same negotiation and differ only in the call in front of it and
in what completes it. So the courses between the two are described once, for any completion.
-/

namespace LaunchDesk

open Program

section Reports

theorem reportHint_leadsTo (e : CallError) :
    (reportHint e).LeadsTo (reportHint e).said (.done ()) := by
  unfold reportHint
  split_ifs
  · exact .say (.here _)
  · exact .say (.here _)
  · exact .here _

theorem reportUnscheduled_leadsTo (e : CallError) :
    (reportUnscheduled e).LeadsTo (reportUnscheduled e).said (.done ()) := by
  cases e with
  | jobFile path reason => exact .say (.here _)
  | requestFailed fault => exact (LeadsTo.log (.say (.say (reportHint_leadsTo _)))).to_done
  | refused status message => exact (LeadsTo.log (.say (.say (reportHint_leadsTo _)))).to_done
  | badReply message => exact (LeadsTo.log (.say (.say (reportHint_leadsTo _)))).to_done

theorem reportNotStarted_leadsTo (message : Option String) :
    (reportNotStarted message).LeadsTo (reportNotStarted message).said (.done ()) := by
  cases message with
  | none => exact .say (.here _)
  | some text => exact .say (.here _)

theorem reportJobs_leadsTo (jobs : List JobRecord) :
    (reportJobs jobs).LeadsTo (reportJobs jobs).said (.done ()) := by
  cases jobs with
  | nil => exact .say (.here _)
  | cons job jobs => exact .say (.say (.say (.here _)))

end Reports

/-- What is said on a job that could not be started. -/
def startFailure (e : CallError) : List Line :=
  [⟨.error, "Failed to launch the job"⟩, ⟨.error, e.launchMessage⟩]

/-- What is said on the jobs that the platform lists, or on the failure to list them. -/
def progressReport (receipt : Receipt) : Except CallError (List JobRecord) → List Line
  | .ok jobs => (reportJobs jobs).said
  | .error e =>
      [⟨.warn, "Failed to query the status of job " ++ receipt.jobId ++ ": " ++ e.message⟩]

/-- What is said on an offer that names no cluster. -/
def clusterMissing : List Line :=
  [⟨.error, "Cluster id was not assigned. Please check if the cli arguments are valid"⟩]

/-- What is said on the reply to a confirmed cluster. -/
def clusterReport : Except CallError Bool → List Line
  | .ok true =>
      [⟨.success, "Cluster successfully confirmed and job will be started on cluster soon."⟩]
  | _ => [⟨.error, "Cluster confirmation failed. Please check if the cli arguments are valid"⟩]

/-- The courses of the order to start a job. -/
inductive Started (offer : Offer) : List Exchange → Prop
  | refused (e : CallError) :
      Started offer (.served (.start offer) (.error e) :: saying (startFailure e))
  | unstarted {receipt : Receipt} (h : receipt.jobUrl = "") :
      Started offer
        (.served (.start offer) (.ok receipt) :: saying (reportNotStarted receipt.message).said)
  | listed {receipt : Receipt} (h : receipt.jobUrl ≠ "")
      (reply : CallResult (.list (receipt.projectName.getD "") .falcon (some receipt.jobId))) :
      Started offer
        (.served (.start offer) (.ok receipt) ::
          .served (.list (receipt.projectName.getD "") .falcon (some receipt.jobId)) reply ::
          saying (progressReport receipt reply))

/-- The courses of the order to take a cluster. -/
inductive Clustered (offer : Offer) : List Exchange → Prop
  | unassigned (h : offer.cluster? = none) :
      Clustered offer (saying clusterMissing)
  | confirmed {cluster : String} (h : offer.cluster? = some cluster)
      (reply : CallResult (.confirmCluster cluster offer.machines)) :
      Clustered offer
        (.served (.confirmCluster cluster offer.machines) reply :: saying (clusterReport reply))

section Completion

variable {offer : Offer} {course : List Exchange}

theorem reportProgress_calls (receipt : Receipt) :
    ∃ next, reportProgress receipt =
        .call (.list (receipt.projectName.getD "") .falcon (some receipt.jobId)) next ∧
      ∀ reply, (next reply).LeadsTo (progressReport receipt reply) (.done ()) := by
  refine ⟨_, rfl, fun reply => ?_⟩
  cases reply with
  | ok jobs => exact reportJobs_leadsTo jobs
  | error e => exact .log (.say (.here _))

theorem course_reportReceipt_iff {receipt : Receipt} :
    (reportReceipt receipt).Course course () ↔
      (receipt.jobUrl = "" ∧ course = saying (reportNotStarted receipt.message).said) ∨
      (receipt.jobUrl ≠ "" ∧
        ∃ reply : CallResult (.list (receipt.projectName.getD "") .falcon (some receipt.jobId)),
          course = .served _ reply :: saying (progressReport receipt reply)) := by
  unfold reportReceipt
  by_cases hu : receipt.jobUrl = ""
  · rw [if_pos (by simpa using hu), (reportNotStarted_leadsTo _).course_done_iff]
    simp [hu]
  · obtain ⟨next, hp, hn⟩ := reportProgress_calls receipt
    rw [if_neg (by simpa using hu), hp, course_call_iff]
    constructor
    · rintro ⟨reply, _, rfl, hend⟩
      obtain ⟨rfl, -⟩ := (hn reply).course_done_iff.mp hend
      exact Or.inr ⟨hu, reply, rfl⟩
    · rintro (⟨h, -⟩ | ⟨-, reply, rfl⟩)
      · exact absurd h hu
      · exact ⟨reply, _, rfl, (hn reply).course_done_iff.mpr ⟨rfl, rfl⟩⟩

theorem startJob_calls (offer : Offer) :
    ∃ next, startJob offer = .call (.start offer) next ∧
      (∀ receipt, (next (.ok receipt)).LeadsTo [] (reportReceipt receipt)) ∧
      ∀ e, (next (.error e)).LeadsTo (startFailure e) (.done ()) :=
  ⟨_, rfl, fun _ => .here _, fun _ => .log (.say (.say (.here _)))⟩

theorem course_startJob_iff : (startJob offer).Course course () ↔ Started offer course := by
  obtain ⟨next, hs, hok, herr⟩ := startJob_calls offer
  rw [hs, course_call_iff]
  constructor
  · rintro ⟨reply, rest, rfl, hrest⟩
    cases reply with
    | error e =>
        obtain ⟨rfl, -⟩ := (herr e).course_done_iff.mp hrest
        exact .refused e
    | ok receipt =>
        obtain ⟨_, rfl, hr⟩ := (hok receipt).course_iff.mp hrest
        rcases course_reportReceipt_iff.mp hr with ⟨hu, rfl⟩ | ⟨hu, reply, rfl⟩
        · exact .unstarted hu
        · exact .listed hu reply
  · intro h
    cases h with
    | refused e => exact ⟨_, _, rfl, (herr e).course_done_iff.mpr ⟨rfl, rfl⟩⟩
    | @unstarted receipt hu =>
        have hr := course_reportReceipt_iff.mpr (Or.inl ⟨hu, rfl⟩)
        exact ⟨_, _, rfl, (hok receipt).course_iff.mpr ⟨_, rfl, hr⟩⟩
    | @listed receipt hu reply =>
        have hr := course_reportReceipt_iff.mpr (Or.inr ⟨hu, reply, rfl⟩)
        exact ⟨_, _, rfl, (hok receipt).course_iff.mpr ⟨_, rfl, hr⟩⟩

theorem confirmCluster_calls (offer : Offer) (cluster : String) :
    ∃ next, confirmCluster offer cluster = .call (.confirmCluster cluster offer.machines) next ∧
      ∀ reply, (next reply).LeadsTo (clusterReport reply) (.done ()) := by
  refine ⟨_, rfl, fun reply => ?_⟩
  cases reply with
  | error e => exact .log (.say (.here _))
  | ok taken =>
      cases (taken : Bool) with
      | true => exact .log (.say (.here _))
      | false => exact .say (.here _)

theorem course_startOnCluster_iff :
    (startOnCluster offer).Course course () ↔ Clustered offer course := by
  cases hc : offer.cluster? with
  | none =>
      have hl : (startOnCluster offer).LeadsTo clusterMissing (.done ()) := by
        simp only [startOnCluster, hc]
        exact .say (.here _)
      rw [hl.course_done_iff]
      constructor
      · rintro ⟨rfl, -⟩
        exact .unassigned hc
      · rintro (h | ⟨h, _⟩)
        · exact ⟨rfl, rfl⟩
        · simp [hc] at h
  | some cluster =>
      obtain ⟨next, hs, hn⟩ := confirmCluster_calls offer cluster
      simp only [startOnCluster, hc, hs, course_call_iff]
      constructor
      · rintro ⟨reply, _, rfl, hend⟩
        obtain ⟨rfl, -⟩ := (hn reply).course_done_iff.mp hend
        exact .confirmed hc reply
      · rintro (h | ⟨h, reply⟩)
        · simp [hc] at h
        · obtain rfl := Option.some.inj (hc.symm.trans h)
          exact ⟨reply, _, rfl, (hn reply).course_done_iff.mpr ⟨rfl, rfl⟩⟩

end Completion

/-- How a launch ends on an answer: it fails if the answer could not be read. -/
def Answer.ending : Answer → Except LaunchError Unit
  | .ok _ => .ok ()
  | .error e => .error (.unread e)

/-- The courses of a launch behind its schedule call, for each reply to it. -/
inductive Proceeded (file : String) (Closes : Offer → List Exchange → Prop) :
    Except CallError Offer → List Exchange → Except LaunchError Unit → Prop
  | unscheduled (e : CallError) :
      Proceeded file Closes (.error e) (saying (reportUnscheduled e).said) (.ok ())
  | unasked {offer : Offer} (h : offer.question? = none) :
      Proceeded file Closes (.ok offer) (saying (offer.opening file)) (.ok ())
  | declined {offer : Offer} {q : Question} (h : offer.question? = some q) {answer : Answer}
      (hno : answer ≠ .ok true) (reply : CallResult (.stop offer.jobId .falcon)) :
      Proceeded file Closes (.ok offer)
        (saying (offer.opening file) ++ .answered q.text answer ::
          (saying q.refusal ++ stopping offer.jobId reply)) answer.ending
  | queued {offer : Offer} (h : offer.question? = some .queue) :
      Proceeded file Closes (.ok offer)
        (saying (offer.opening file) ++ .answered queueQuestion (.ok true) ::
          saying Question.queue.agreement) (.ok ())
  | accepted {offer : Offer} (h : offer.question? = some .launch) {rest : List Exchange}
      (hc : Closes offer rest) :
      Proceeded file Closes (.ok offer)
        (saying (offer.opening file) ++ .answered launchQuestion (.ok true) ::
          (saying Question.launch.agreement ++ rest)) (.ok ())

namespace Call

/-- Whether a call is the order to stop a job. -/
def isStop : Call → Bool
  | stop .. => true
  | _ => false

/-- Whether a call launches a job. -/
def isLaunch : Call → Bool
  | start .. | confirmCluster .. => true
  | _ => false

@[simp] theorem isLaunch_stop (jobId : String) (platform : Platform) :
    (stop jobId platform).isLaunch = false := rfl

end Call

/-- The first call of an order. -/
def Order.scheduling (order : Order) (file : String) : Call :=
  match order.cluster with
  | some name => .scheduleOnCluster file name
  | none => .schedule file order.group

@[simp] theorem Order.isStop_scheduling (order : Order) (file : String) :
    (order.scheduling file).isStop = false := by
  unfold scheduling
  split <;> rfl

@[simp] theorem Order.isLaunch_scheduling (order : Order) (file : String) :
    (order.scheduling file).isLaunch = false := by
  unfold scheduling
  split <;> rfl

/-- The first exchange of an order, and the reply in it. -/
inductive Schedules (order : Order) (file : String) : Exchange → Except CallError Offer → Prop
  | plain (h : order.cluster = none) (reply : CallResult (.schedule file order.group)) :
      Schedules order file (.served (.schedule file order.group) reply) reply
  | clustered {name : String} (h : order.cluster = some name)
      (reply : CallResult (.scheduleOnCluster file name)) :
      Schedules order file (.served (.scheduleOnCluster file name) reply) reply

/-- The courses that complete an order for an accepted offer. -/
inductive Completed (order : Order) (offer : Offer) : List Exchange → Prop
  | plain (h : order.cluster = none) {course : List Exchange} (started : Started offer course) :
      Completed order offer course
  | clustered {name : String} (h : order.cluster = some name) {course : List Exchange}
      (clustered : Clustered offer course) : Completed order offer course

section Uneventful

variable {offer : Offer} {course : List Exchange}

/-- A course without an offer, without a question, and in which nothing is stopped. -/
structure Uneventful (course : List Exchange) : Prop where
  offers : offersOf course = []
  answers : answersOf course = []
  stops : (callsOf course).filter Call.isStop = []

theorem Started.uneventful (h : Started offer course) : Uneventful course := by
  cases h with
  | refused e => exact ⟨by simp, by simp, by simp [Call.isStop]⟩
  | unstarted h => exact ⟨by simp, by simp, by simp [Call.isStop]⟩
  | listed h reply => exact ⟨by simp, by simp, by simp [Call.isStop]⟩

theorem Clustered.uneventful (h : Clustered offer course) : Uneventful course := by
  cases h with
  | unassigned h => exact ⟨offersOf_saying, answersOf_saying, by simp⟩
  | confirmed h reply => exact ⟨by simp, by simp, by simp [Call.isStop]⟩

/-- The user has no further say in what completes a launch. -/
theorem Completed.uneventful {order : Order} (h : Completed order offer course) :
    Uneventful course := by
  cases h with
  | plain ho hs => exact hs.uneventful
  | clustered ho hs => exact hs.uneventful

end Uneventful

/-- The courses of a launch, with its result. -/
inductive Launched (order : Order) : List Exchange → Except LaunchError Unit → Prop
  | noFile (h : order.files = []) : Launched order [] (.error .noJobFile)
  | scheduled {file : String} {others : List String} (hf : order.files = file :: others)
      {first : Exchange} {reply : Except CallError Offer} (hs : Schedules order file first reply)
      {course : List Exchange} {r : Except LaunchError Unit}
      (h : Proceeded file (Completed order) reply course r) : Launched order (first :: course) r

section Scheduling

variable {order : Order} {file : String} {first : Exchange} {reply : Except CallError Offer}
  {course : List Exchange}

theorem Schedules.callsOf_cons (h : Schedules order file first reply) :
    callsOf (first :: course) = order.scheduling file :: callsOf course := by
  cases h with
  | plain h reply =>
      simp only [Order.scheduling, h]
      rfl
  | clustered h reply =>
      simp only [Order.scheduling, h]
      rfl

/-- The offer of a launch is the one that its first call got. -/
theorem Schedules.offer?_eq (h : Schedules order file first reply) :
    first.offer? = reply.toOption := by
  cases h with
  | plain h reply => cases reply <;> rfl
  | clustered h reply => cases reply <;> rfl

theorem Schedules.offersOf_cons (h : Schedules order file first reply) :
    offersOf (first :: course) = reply.toOption.toList ++ offersOf course := by
  rw [← h.offer?_eq]
  cases hf : first.offer? with
  | none => exact List.filterMap_cons_none hf
  | some offer => exact List.filterMap_cons_some hf

theorem Schedules.answersOf_cons (h : Schedules order file first reply) :
    answersOf (first :: course) = answersOf course := by
  cases h with
  | plain h reply => rfl
  | clustered h reply => rfl

end Scheduling

section Whole

variable {file : String} {complete : Offer → Program Unit} {Closes : Offer → List Exchange → Prop}
  {course : List Exchange} {r : Except LaunchError Unit}

theorem proceed_unscheduled (e : CallError) :
    (proceed file complete (.error e)).LeadsTo (reportUnscheduled e).said (.done (.ok ())) :=
  (reportUnscheduled_leadsTo e).bind_done _

/-- What a launch does with the outcome of its negotiation. -/
def conclude (complete : Offer → Program Unit) (offer : Offer) :
    Except AnswerError Outcome → Program (Except LaunchError Unit)
  | .error e => .done (.error (.unread e))
  | .ok .accepted => (complete offer).bind fun _ => .done (.ok ())
  | .ok _ => .done (.ok ())

theorem conclude_of_ended {offer : Offer} {outcome : Outcome} (h : outcome.proceeds = false) :
    conclude complete offer (.ok outcome) = .done (.ok ()) := by
  cases outcome with
  | accepted => exact absurd h (by decide)
  | _ => rfl

/-- A negotiation that ended on anything but a yes ends the launch. -/
theorem conclude_of_no {offer : Offer} {q : Question} {answer : Answer} (h : answer ≠ .ok true) :
    conclude complete offer (q.verdict answer) = .done answer.ending := by
  cases answer with
  | error e => rfl
  | ok yes =>
      cases yes with
      | true => exact absurd rfl h
      | false => cases q <;> rfl

theorem proceed_scheduled (offer : Offer) :
    proceed file complete (.ok offer) = (negotiate offer file).bind (conclude complete offer) := by
  refine congrArg (negotiate offer file).bind (funext fun outcome => ?_)
  rcases outcome with e | outcome
  · rfl
  · cases outcome <;> rfl

theorem proceeded_of_course
    (hcomplete : ∀ {offer rest}, (complete offer).Course rest () → Closes offer rest)
    {reply : Except CallError Offer} (h : (proceed file complete reply).Course course r) :
    Proceeded file Closes reply course r := by
  cases reply with
  | error e =>
      obtain ⟨rfl, rfl⟩ := (proceed_unscheduled e).course_done_iff.mp h
      exact .unscheduled e
  | ok offer =>
      rw [proceed_scheduled, course_bind_iff] at h
      obtain ⟨front, outcome, rest, rfl, hn, hrest⟩ := h
      cases negotiated_of_course hn with
      | unasked hq =>
          rw [conclude_of_ended Offer.exit_proceeds] at hrest
          obtain ⟨rfl, rfl⟩ := course_done_iff.mp hrest
          simpa using Proceeded.unasked hq
      | declined hq hno reply =>
          rw [conclude_of_no hno] at hrest
          obtain ⟨rfl, rfl⟩ := course_done_iff.mp hrest
          simpa using Proceeded.declined hq hno reply
      | @agreed q hq =>
          cases q with
          | queue =>
              obtain ⟨rfl, rfl⟩ := course_done_iff.mp hrest
              simpa using Proceeded.queued hq
          | launch =>
              obtain ⟨rest, ⟨⟩, last, rfl, hc, hend⟩ := course_bind_iff.mp hrest
              obtain ⟨rfl, rfl⟩ := course_done_iff.mp hend
              simpa using Proceeded.accepted hq (hcomplete hc)

theorem course_of_proceeded
    (hcomplete : ∀ {offer rest}, Closes offer rest → (complete offer).Course rest ())
    {reply : Except CallError Offer} (h : Proceeded file Closes reply course r) :
    (proceed file complete reply).Course course r := by
  cases h with
  | unscheduled e => exact (proceed_unscheduled e).course_done_iff.mpr ⟨rfl, rfl⟩
  | @unasked offer hq =>
      rw [proceed_scheduled, course_bind_iff]
      refine ⟨_, _, [], (List.append_nil _).symm, course_negotiate_iff.mpr (.unasked hq), ?_⟩
      rw [conclude_of_ended Offer.exit_proceeds]
      exact .done _
  | @declined offer q hq answer hno reply =>
      rw [proceed_scheduled, course_bind_iff]
      refine ⟨_, _, [], (List.append_nil _).symm,
        course_negotiate_iff.mpr (.declined hq hno reply), ?_⟩
      rw [conclude_of_no hno]
      exact .done _
  | @queued offer hq =>
      rw [proceed_scheduled, course_bind_iff]
      exact ⟨_, _, [], (List.append_nil _).symm, course_negotiate_iff.mpr (.agreed hq), .done _⟩
  | @accepted offer hq rest hc =>
      rw [proceed_scheduled, course_bind_iff]
      have hend : (conclude complete offer (.ok .accepted)).Course rest (.ok ()) :=
        course_bind_iff.mpr ⟨rest, (), [], (List.append_nil _).symm, hcomplete hc, .done _⟩
      exact ⟨_, _, rest, by simp, course_negotiate_iff.mpr (.agreed hq), hend⟩

theorem launch_of_noFile {order : Order} (hf : order.files = []) :
    launch order = .done (.error .noJobFile) := by
  simp [launch, hf]

theorem launch_of_files {order : Order} {file : String} {others : List String}
    (hf : order.files = file :: others) :
    (launch order).LeadsTo [] (launchFile file order.cluster order.group) := by
  unfold launch
  simp only [hf]
  cases others with
  | nil => exact .here _
  | cons other others => exact .log (.here _)

theorem launched_of_course {order : Order} (h : (launch order).Course course r) :
    Launched order course r := by
  cases hf : order.files with
  | nil =>
      rw [launch_of_noFile hf] at h
      obtain ⟨rfl, rfl⟩ := course_done_iff.mp h
      exact .noFile hf
  | cons file others =>
      obtain ⟨_, rfl, hl⟩ := (launch_of_files hf).course_iff.mp h
      cases hc : order.cluster with
      | none =>
          rw [hc] at hl
          obtain ⟨reply, rest, rfl, hp⟩ := course_call_iff.mp hl
          exact .scheduled hf (.plain hc reply)
            (proceeded_of_course (fun h => .plain hc (course_startJob_iff.mp h)) hp)
      | some name =>
          rw [hc] at hl
          obtain ⟨reply, rest, rfl, hp⟩ := course_call_iff.mp hl
          exact .scheduled hf (.clustered hc reply)
            (proceeded_of_course (fun h => .clustered hc (course_startOnCluster_iff.mp h)) hp)

theorem Completed.started {order : Order} {offer : Offer} (h : Completed order offer course)
    (ho : order.cluster = none) : Started offer course := by
  cases h with
  | plain _ hs => exact hs
  | clustered hc _ => simp [ho] at hc

theorem Completed.onCluster {order : Order} {offer : Offer} {name : String}
    (h : Completed order offer course) (ho : order.cluster = some name) :
    Clustered offer course := by
  cases h with
  | plain hc _ => simp [ho] at hc
  | clustered _ hs => exact hs

/-- A launch can take every one of these courses, and no other. -/
theorem course_launch_iff {order : Order} :
    (launch order).Course course r ↔ Launched order course r := by
  constructor
  · exact launched_of_course
  intro h
  cases h with
  | noFile hf =>
      rw [launch_of_noFile hf]
      exact .done _
  | @scheduled file others hf first reply hs course r hp =>
      apply (launch_of_files hf).course_iff.mpr
      refine ⟨_, rfl, ?_⟩
      cases hs with
      | plain ho reply =>
          rw [ho]
          exact course_call_iff.mpr ⟨reply, course, rfl,
            course_of_proceeded (fun h => course_startJob_iff.mpr (h.started ho)) hp⟩
      | clustered ho reply =>
          rw [ho]
          exact course_call_iff.mpr ⟨reply, course, rfl,
            course_of_proceeded (fun h => course_startOnCluster_iff.mpr (h.onCluster ho)) hp⟩

/-- What a run of a launch does and how it ends. -/
theorem launched_run {σ : Type} (order : Order) (host : Host σ) (s : σ) :
    Launched order ((launch order).history host s) ((launch order).run host s).result :=
  launched_of_course (course_history host _ s)

/-- No offer comes back behind the schedule call. -/
theorem Proceeded.offersOf_eq {order : Order} {reply : Except CallError Offer}
    (h : Proceeded file (Completed order) reply course r) : offersOf course = [] := by
  cases h with
  | unscheduled e => simp
  | unasked hq => simp
  | declined hq hno reply => simp
  | queued hq => simp
  | accepted hq hc => simp [hc.uneventful.offers]

/-- Right behind the schedule call comes what is said on the offer. -/
theorem Proceeded.opens {offer : Offer} (h : Proceeded file Closes (.ok offer) course r) :
    ∃ rest, course = saying (offer.opening file) ++ rest := by
  cases h with
  | unasked hq => exact ⟨[], (List.append_nil _).symm⟩
  | declined hq hno reply => exact ⟨_, rfl⟩
  | queued hq => exact ⟨_, rfl⟩
  | accepted hq hc => exact ⟨_, rfl⟩

/-- The offer of a launch came back to its schedule call, and what is said on it comes next. -/
theorem Launched.opened {order : Order} (h : Launched order course r) {offer : Offer}
    (ho : offer ∈ offersOf course) :
    ∃ file others first rest, order.files = file :: others ∧
      course = first :: (saying (offer.opening file) ++ rest) ∧
      Schedules order file first (.ok offer) := by
  cases h with
  | noFile hf => simp at ho
  | @scheduled file others hf first reply hs course r hp =>
      rw [hs.offersOf_cons, hp.offersOf_eq, List.append_nil, Option.mem_toList] at ho
      cases reply with
      | error e => cases ho
      | ok other =>
          obtain rfl : other = offer := Option.some.inj ho
          obtain ⟨rest, rfl⟩ := hp.opens
          exact ⟨file, others, first, rest, hf, rfl, hs⟩

theorem Launched.offered {order : Order} (h : Launched order course r) {offer : Offer}
    (ho : offer ∈ offersOf course) :
    ∃ file others first rest, order.files = file :: others ∧ course = first :: rest ∧
      Schedules order file first (.ok offer) := by
  obtain ⟨file, others, first, rest, hf, hcourse, hs⟩ := h.opened ho
  exact ⟨file, others, first, _, hf, hcourse, hs⟩

end Whole

end LaunchDesk
