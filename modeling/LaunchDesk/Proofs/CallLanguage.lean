import LaunchDesk.Proofs.Launch

/-!
# The calls of a launch

Which calls a launch makes, and in which order: a plain launch schedules and then stops, starts, or
starts and lists; a launch on a cluster schedules and then stops or confirms; either may end with
the first call. The platform and the user choose among these sequences, and each of them occurs.
-/

namespace LaunchDesk

open Program

variable {σ : Type}

/-- The sequences of calls of an order. -/
inductive CallSequence (order : Order) : List Call → Prop
  | noFile (hf : order.files = []) : CallSequence order []
  | scheduled {file others} (hf : order.files = file :: others) :
      CallSequence order [order.scheduling file]
  | stopped {file others} (hf : order.files = file :: others) (jobId : String) :
      CallSequence order [order.scheduling file, .stop jobId .falcon]
  | started {file others} (hf : order.files = file :: others) (ho : order.cluster = none)
      {offer : Offer} (hq : offer.question? = some .launch) :
      CallSequence order [order.scheduling file, .start offer]
  | listed {file others} (hf : order.files = file :: others) (ho : order.cluster = none)
      {offer : Offer} (hq : offer.question? = some .launch) (projectName jobId : String) :
      CallSequence order
        [order.scheduling file, .start offer, .list projectName .falcon (some jobId)]
  | confirmed {file others name} (hf : order.files = file :: others)
      (ho : order.cluster = some name) {offer : Offer} (hq : offer.question? = some .launch)
      {cluster : String} (hc : offer.cluster? = some cluster) :
      CallSequence order [order.scheduling file, .confirmCluster cluster offer.machines]

/-- The receipts that came back in a course. -/
def receiptsOf (course : List Exchange) : List Receipt :=
  course.filterMap fun
    | .served (.start _) (.ok receipt) => some receipt
    | _ => none

section Sequences

variable {order : Order} {course : List Exchange} {r : Except LaunchError Unit}

theorem callSequence_of_launched (h : Launched order course r) :
    CallSequence order (callsOf course) := by
  cases h with
  | noFile hf => exact .noFile hf
  | @scheduled file others hf first reply hs course r hp =>
      rw [hs.callsOf_cons]
      cases hp with
      | unscheduled e => simpa using CallSequence.scheduled hf
      | unasked hq => simpa using CallSequence.scheduled hf
      | queued hq => simpa using CallSequence.scheduled hf
      | declined hq hno reply => simpa using CallSequence.stopped hf _
      | accepted hq hc =>
          rcases hc with ⟨ho, hc⟩ | ⟨ho, hc⟩
          · cases hc with
            | refused e => simpa using CallSequence.started hf ho hq
            | unstarted hu => simpa using CallSequence.started hf ho hq
            | listed hu reply => simpa using CallSequence.listed hf ho hq _ _
          · cases hc with
            | unassigned hc => simpa using CallSequence.scheduled hf
            | confirmed hc reply => simpa using CallSequence.confirmed hf ho hq hc

theorem Schedules.exists (order : Order) (file : String) (reply : Except CallError Offer) :
    ∃ first, Schedules order file first reply := by
  cases ho : order.cluster with
  | none => exact ⟨_, .plain ho reply⟩
  | some name => exact ⟨_, .clustered ho reply⟩

/-- An offer of a place in the queue, for a job of any name. -/
def Offer.waiting (jobId : String) : Offer where
  jobId := jobId
  jobUrl := "https://platform/job"
  status := .queued
  message := none
  machines := []
  clusterId := none
  projectName := none
  jobName := none

/-- A receipt for a job that was started in a project. -/
def Receipt.granted (projectName jobId : String) : Receipt where
  jobId := jobId
  jobUrl := "https://platform/job"
  projectName := some projectName
  jobName := none
  status := none
  message := none

/-- The platform and the user can bring about every sequence. -/
theorem launched_of_callSequence {calls : List Call} (h : CallSequence order calls) :
    ∃ course r, Launched order course r ∧ callsOf course = calls := by
  cases h with
  | noFile hf => exact ⟨_, _, .noFile hf, rfl⟩
  | @scheduled file others hf =>
      obtain ⟨first, hs⟩ := Schedules.exists order file (.error (.badReply ""))
      exact ⟨_, _, .scheduled hf hs (.unscheduled _), by simp [hs.callsOf_cons]⟩
  | @stopped file others hf jobId =>
      obtain ⟨first, hs⟩ := Schedules.exists order file (.ok (.waiting jobId))
      have hq : (Offer.waiting jobId).question? = some .queue :=
        Offer.question?_eq_queue_iff.mpr ⟨by simp [Offer.waiting], rfl⟩
      have hno : (.ok false : Answer) ≠ .ok true := by simp
      exact ⟨_, _, .scheduled hf hs (.declined hq hno (.ok ())),
        by simp [hs.callsOf_cons, Offer.waiting]⟩
  | @started file others hf ho offer hq =>
      obtain ⟨first, hs⟩ := Schedules.exists order file (.ok offer)
      have hc : Completed order offer _ := .plain ho (.refused (.badReply ""))
      exact ⟨_, _, .scheduled hf hs (.accepted hq hc), by simp [hs.callsOf_cons]⟩
  | @listed file others hf ho offer hq projectName jobId =>
      obtain ⟨first, hs⟩ := Schedules.exists order file (.ok offer)
      have hu : (Receipt.granted projectName jobId).jobUrl ≠ "" := by simp [Receipt.granted]
      have hc : Completed order offer _ := .plain ho (.listed hu (.ok []))
      exact ⟨_, _, .scheduled hf hs (.accepted hq hc),
        by simp [hs.callsOf_cons, Receipt.granted]⟩
  | @confirmed file others name hf ho offer hq cluster hc =>
      obtain ⟨first, hs⟩ := Schedules.exists order file (.ok offer)
      have hc : Completed order offer _ := .clustered ho (.confirmed hc (.ok true))
      exact ⟨_, _, .scheduled hf hs (.accepted hq hc), by simp [hs.callsOf_cons]⟩

end Sequences

section Listing

variable {order : Order} {offer : Offer} {course rest : List Exchange} {r : Except LaunchError Unit}

@[simp] theorem receiptsOf_append :
    receiptsOf (course ++ rest) = receiptsOf course ++ receiptsOf rest :=
  List.filterMap_append

@[simp] theorem receiptsOf_saying (lines : List Line) : receiptsOf (saying lines) = [] := by
  simp [receiptsOf, saying]

@[simp] theorem receiptsOf_answered (question : String) (answer : Answer) :
    receiptsOf (.answered question answer :: rest) = receiptsOf rest := rfl

theorem receiptsOf_started (offer : Offer) (receipt : Receipt) :
    receiptsOf (.served (.start offer) (.ok receipt) :: rest) = receipt :: receiptsOf rest := rfl

theorem receiptsOf_refused (offer : Offer) (e : CallError) :
    receiptsOf (.served (.start offer) (.error e) :: rest) = receiptsOf rest := rfl

@[simp] theorem receiptsOf_confirmCluster (clusterId : String) (machines : List Machine)
    (reply : CallResult (.confirmCluster clusterId machines)) :
    receiptsOf (.served (.confirmCluster clusterId machines) reply :: rest) = receiptsOf rest := rfl

@[simp] theorem receiptsOf_list (projectName : String) (platform : Platform)
    (jobId : Option String) (reply : CallResult (.list projectName platform jobId)) :
    receiptsOf (.served (.list projectName platform jobId) reply :: rest) = receiptsOf rest := rfl

@[simp] theorem receiptsOf_stopping (jobId : String) (reply : CallResult (.stop jobId .falcon)) :
    receiptsOf (stopping jobId reply) = [] :=
  receiptsOf_saying (complaint jobId reply)

theorem Schedules.receiptsOf_cons {file : String} {first : Exchange}
    {reply : Except CallError Offer} (h : Schedules order file first reply) :
    receiptsOf (first :: course) = receiptsOf course := by
  cases h with
  | plain h reply => rfl
  | clustered h reply => rfl

/-- Whether a call asks for a list of jobs. -/
def Call.isList : Call → Bool
  | list .. => true
  | _ => false

@[simp] theorem Call.isList_stop (jobId : String) (platform : Platform) :
    (stop jobId platform).isList = false := rfl

@[simp] theorem Order.isList_scheduling (order : Order) (file : String) :
    (order.scheduling file).isList = false := by
  unfold scheduling
  split <;> rfl

/-- The calls for the list of jobs that a receipt gives rise to: one if the job has an address. -/
def Receipt.listing (receipt : Receipt) : List Call :=
  if receipt.jobUrl = "" then []
  else [.list (receipt.projectName.getD "") .falcon (some receipt.jobId)]

theorem Completed.filter_isList (h : Completed order offer course) :
    (callsOf course).filter Call.isList = (receiptsOf course).flatMap Receipt.listing := by
  rcases h with ⟨ho, h⟩ | ⟨ho, h⟩
  · cases h with
    | refused e =>
        rw [receiptsOf_refused]
        simp [Call.isList]
    | unstarted hu =>
        rw [receiptsOf_started]
        simp [Call.isList, Receipt.listing, hu]
    | listed hu reply =>
        rw [receiptsOf_started]
        simp [Call.isList, Receipt.listing, hu]
  · cases h with
    | unassigned hc => simp
    | confirmed hc reply => simp [Call.isList]

/-- The jobs are listed once for a receipt with an address, and never else. -/
theorem launched_filter_isList (h : Launched order course r) :
    (callsOf course).filter Call.isList = (receiptsOf course).flatMap Receipt.listing := by
  cases h with
  | noFile hf => rfl
  | @scheduled file others hf first reply hs course r hp =>
      rw [hs.callsOf_cons, hs.receiptsOf_cons]
      cases hp with
      | unscheduled e => simp
      | unasked hq => simp
      | queued hq => simp
      | declined hq hno reply => simp
      | accepted hq hc => simp [hc.filter_isList]

/-- Only without a file is nothing called. -/
theorem launched_callsOf_eq_nil_iff (h : Launched order course r) :
    callsOf course = [] ↔ order.files = [] := by
  cases h with
  | noFile hf => simp [hf]
  | scheduled hf hs hp => simp [hf, hs.callsOf_cons]

end Listing

/-- The calls of a launch are exactly the sequences of its order. There is none exactly if there is
no file, and the list of jobs is asked for once for a receipt with an address, and never else. -/
theorem callSequence_iff_called (order : Order) :
    (∀ calls, CallSequence order calls ↔
      ∃ (τ : Type) (host : Host τ) (s : τ), Trace.calls ((launch order).run host s).trace = calls) ∧
    ∀ (host : Host σ) (s : σ),
      let course := (launch order).history host s
      let calls := Trace.calls ((launch order).run host s).trace
      (calls = [] ↔ order.files = []) ∧
        calls.filter Call.isList = (receiptsOf course).flatMap Receipt.listing := by
  constructor
  · intro calls
    constructor
    · intro h
      obtain ⟨course, r, hl, hc⟩ := launched_of_callSequence h
      obtain ⟨hh, -⟩ := (course_launch_iff.mpr hl).replayed
      refine ⟨_, replay, repliesOf course, ?_⟩
      rw [calls_run_trace, hh, hc]
    · rintro ⟨τ, host, s, rfl⟩
      rw [calls_run_trace]
      exact callSequence_of_launched (launched_run order host s)
  · intro host s course calls
    have hl : Launched order course _ := launched_run order host s
    have hcalls : calls = callsOf course := calls_run_trace host _ s
    rw [hcalls]
    exact ⟨launched_callsOf_eq_nil_iff hl, launched_filter_isList hl⟩

end LaunchDesk
