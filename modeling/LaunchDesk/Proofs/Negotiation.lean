import LaunchDesk.Negotiation
import LaunchDesk.Proofs.Course
import Mathlib.Tactic.SplitIfs

/-!
# What a negotiation comes to

An offer leads to one question or to none, and the answer settles the rest. The courses of a
negotiation are given here outright, with the question, the answer and the call that stops a job.

## Implementation notes

The table of questions is read off the offer alone. It is stated apart from the program, so that the
program can be compared with it.
-/

namespace LaunchDesk

/-- Whether a status goes with machines to look at. -/
def StartStatus.isMatch : StartStatus → Bool
  | invalid | blocked | submitted | launched | unrecognized _ => true
  | queued | bindCreditCardFirst | creditCardQueryFailed => false

theorem launchQuestion_ne_queueQuestion : launchQuestion ≠ queueQuestion := by
  decide

/-- A question that a negotiation can come to. -/
inductive Question where
  /-- Whether to wait for a machine. -/
  | queue
  /-- Whether to launch on the machines that were shown. -/
  | launch
  deriving DecidableEq, Repr

namespace Question

/-- The question as it is asked. -/
def text : Question → String
  | queue => queueQuestion
  | launch => launchQuestion

@[simp] theorem text_queue : queue.text = queueQuestion := rfl

@[simp] theorem text_launch : launch.text = launchQuestion := rfl

/-- What a yes comes to. -/
def agreed : Question → Outcome
  | queue => .queued
  | launch => .accepted

/-- What a no comes to. -/
def declined : Question → Outcome
  | queue => .queueDeclined
  | launch => .rejected

/-- What is said to a yes. -/
def agreement : Question → List Line
  | queue => [⟨.success, "You have confirmed to keep your job in the waiting list."⟩]
  | launch => [⟨.info, "Launching the job with the above matched GPU resource."⟩]

/-- What is said to anything but a yes. -/
def refusal : Question → List Line
  | queue => []
  | launch => [⟨.info, "Cancelling the job with the above matched GPU resource."⟩]

end Question

namespace Offer

variable {offer : Offer}

/-- The question that an offer leads to, if it leads to one. -/
def question? (offer : Offer) : Option Question :=
  if offer.jobUrl = "" then none
  else if offer.status = .queued then some .queue
  else if offer.status.isMatch ∧ offer.machines ≠ [] then some .launch
  else none

theorem question?_eq_queue_iff :
    offer.question? = some .queue ↔ offer.jobUrl ≠ "" ∧ offer.status = .queued := by
  unfold question?
  split_ifs <;> simp_all

theorem question?_eq_launch_iff :
    offer.question? = some .launch ↔
      offer.jobUrl ≠ "" ∧ offer.status.isMatch ∧ offer.machines ≠ [] := by
  unfold question?
  split_ifs <;> simp_all [StartStatus.isMatch]

/-- What an offer comes to that leads to no question. -/
def exit (offer : Offer) : Outcome :=
  if offer.jobUrl = "" then .noJob
  else
    match offer.status with
    | .bindCreditCardFirst => .cardMissing
    | .creditCardQueryFailed => .cardUnknown
    | _ => .noMachines

/-- There are four ways for an offer to lead to no question. -/
theorem exits_of_unasked (h : offer.question? = none) :
    (offer.jobUrl = "" ∧ offer.exit = .noJob) ∨
      (offer.jobUrl ≠ "" ∧ offer.status = .bindCreditCardFirst ∧ offer.exit = .cardMissing) ∨
      (offer.jobUrl ≠ "" ∧ offer.status = .creditCardQueryFailed ∧ offer.exit = .cardUnknown) ∨
      (offer.jobUrl ≠ "" ∧ offer.status.isMatch ∧ offer.machines = [] ∧
        offer.exit = .noMachines) := by
  by_cases hj : offer.jobUrl = ""
  · exact Or.inl ⟨hj, if_pos hj⟩
  · cases hs : offer.status <;> simp_all [question?, exit, StartStatus.isMatch]

/-- None of them launches a job, and none leaves one behind. -/
theorem exit_proceeds : offer.exit.proceeds = false := by
  unfold exit
  split
  · rfl
  · split <;> rfl

theorem exit_cancels : offer.exit.cancels = false := by
  unfold exit
  split
  · rfl
  · split <;> rfl

end Offer

namespace Offer

/-- The lines that show the machines of an offer and where else they can be seen. -/
def display (offer : Offer) : List Line :=
  [⟨.info, ""⟩,
    ⟨.info, "Searched and matched the following GPU resource for your job:"⟩,
    ⟨.info, machineTable offer.machines⟩,
    ⟨.info, ""⟩,
    ⟨.info, "You can also view the matched GPU resource with Web UI at: "⟩,
    ⟨.info, offer.jobUrl⟩]

/-- All that is said on an offer up to the question, or at all. -/
def opening (offer : Offer) (file : String) : List Line :=
  (decideOn offer file).said

end Offer

/-- The line that reports a job that could not be stopped. -/
def complaint (jobId : String) : Except CallError Unit → List Line
  | .ok _ => []
  | .error e => [⟨.error, "Failed to cancel job " ++ jobId ++ ": " ++ e.message⟩]

/-- What happens when a job is stopped: the call, and a complaint if it fails. -/
def stopping (jobId : String) (reply : CallResult (.stop jobId .falcon)) : List Exchange :=
  .served (.stop jobId .falcon) reply :: saying (complaint jobId reply)

section Stopping

variable {jobId : String} {reply : CallResult (.stop jobId .falcon)}

@[simp] theorem callsOf_stopping : callsOf (stopping jobId reply) = [.stop jobId .falcon] := by
  simp [stopping]

@[simp] theorem answersOf_stopping : answersOf (stopping jobId reply) = [] := by
  simp [stopping]

@[simp] theorem offersOf_stopping : offersOf (stopping jobId reply) = [] := by
  simp [stopping]

end Stopping

/-- What a negotiation returns for a decision. -/
def Decision.result (d : Decision) : Except AnswerError Outcome :=
  match d.unread with
  | some e => .error e
  | none => .ok d.outcome

namespace Question

/-- What is said to an answer. -/
def response (q : Question) : Answer → List Line
  | .ok true => q.agreement
  | _ => q.refusal

/-- What an answer decides; one that cannot be read counts as a no. -/
def decision (q : Question) : Answer → Decision
  | .ok true => ⟨q.agreed, none⟩
  | .ok false => ⟨q.declined, none⟩
  | .error e => ⟨q.declined, some e⟩

/-- What a negotiation returns for an answer. -/
def verdict (q : Question) : Answer → Except AnswerError Outcome
  | .ok true => .ok q.agreed
  | .ok false => .ok q.declined
  | .error e => .error e

variable {q : Question} {answer : Answer}

theorem result_decision : (q.decision answer).result = q.verdict answer := by
  cases answer with
  | error e => rfl
  | ok yes => cases yes <;> rfl

theorem response_of_no (h : answer ≠ .ok true) : q.response answer = q.refusal := by
  cases answer with
  | error e => rfl
  | ok yes =>
      cases yes with
      | true => exact absurd rfl h
      | false => rfl

/-- Anything but a yes leaves a job behind that nobody wants. -/
theorem cancels_of_no (h : answer ≠ .ok true) : (q.decision answer).outcome.cancels = true := by
  cases answer with
  | error e => cases q <;> rfl
  | ok yes =>
      cases yes with
      | true => exact absurd rfl h
      | false => cases q <;> rfl

theorem agreed_cancels : q.agreed.cancels = false := by
  cases q <;> rfl

end Question

open Program

section Steps

variable {offer : Offer} {file : String}

theorem interpret_of_noJob (file : String) (h : offer.jobUrl = "") :
    ∃ lines, (interpret offer file).LeadsTo lines (.done (.ok .noJob)) := by
  have hi : interpret offer file =
      (reportNoJob offer.message).bind fun _ => .done (.ok .noJob) := by
    simp [interpret, Offer.hasJob, h]
  rw [hi]
  cases offer.message with
  | none => exact ⟨_, .say (.here _)⟩
  | some text => exact ⟨_, .say (.here _)⟩

theorem interpret_of_job (h : offer.jobUrl ≠ "") :
    interpret offer file = interpretStatus offer file := by
  simp [interpret, Offer.hasJob, h]

theorem interpretStatus_of_isMatch (file : String) (h : offer.status.isMatch) :
    ∃ lines, (interpretStatus offer file).LeadsTo lines (.done (.ok .matched)) := by
  unfold interpretStatus
  cases hs : offer.status with
  | invalid => exact ⟨_, .say (.say (.here _))⟩
  | blocked => exact ⟨_, .say (.say (.say (.here _)))⟩
  | submitted => exact ⟨_, .here _⟩
  | launched => exact ⟨_, .here _⟩
  | unrecognized word => exact ⟨_, .log (.here _)⟩
  | queued => simp [hs, StartStatus.isMatch] at h
  | bindCreditCardFirst => simp [hs, StartStatus.isMatch] at h
  | creditCardQueryFailed => simp [hs, StartStatus.isMatch] at h

theorem present_of_machines (h : offer.machines ≠ []) :
    (present offer).LeadsTo offer.display (.done (some offer.machines.length)) := by
  unfold present
  rw [if_neg (by simpa using h)]
  exact .say (.say (.say (.say (.say (.say (.here _))))))

theorem present_of_noMachines (h : offer.machines = []) : present offer = .done none := by
  simp [present, h]

/-- What follows a question is the response to the answer and the decision that the answer is. -/
def Weighs (q : Question) (next : Answer → Program Decision) : Prop :=
  ∀ answer, (next answer).LeadsTo (q.response answer) (.done (q.decision answer))

theorem askForLaunch_asks (offer : Offer) (shown : Nat) :
    ∃ next, askForLaunch offer shown = .ask Question.launch.text next ∧ Weighs .launch next := by
  refine ⟨_, rfl, fun answer => ?_⟩
  cases answer with
  | error e => exact .log (.say (.here _))
  | ok yes =>
      cases yes with
      | true => exact .say (.log (.here _))
      | false => exact .say (.here _)

theorem decideOnMachines_of_machines (h : offer.machines ≠ []) :
    (decideOnMachines offer).LeadsTo offer.display (askForLaunch offer offer.machines.length) :=
  (present_of_machines h).bind_done _

theorem decideOnMachines_of_noMachines (h : offer.machines = []) :
    (decideOnMachines offer).LeadsTo [] (.done ⟨.noMachines, none⟩) := by
  simp only [decideOnMachines, present_of_noMachines h]
  exact .log (.here _)

theorem decideOn_of_noJob (h : offer.jobUrl = "") :
    ∃ lines, (decideOn offer file).LeadsTo lines (.done ⟨.noJob, none⟩) := by
  obtain ⟨lines, hl⟩ := interpret_of_noJob file h
  exact ⟨lines, hl.bind_done _⟩

/-- An offer whose status goes with machines leads to them. -/
theorem decideOn_of_isMatch (file : String) (h : offer.jobUrl ≠ "") (hm : offer.status.isMatch) :
    ∃ lines, (decideOn offer file).LeadsTo lines (decideOnMachines offer) := by
  obtain ⟨lines, hl⟩ := interpretStatus_of_isMatch file hm
  rw [← interpret_of_job h] at hl
  exact ⟨lines, hl.bind_done _⟩

/-- A payment gate ends a negotiation. -/
theorem decideOn_of_cardMissing (h : offer.jobUrl ≠ "") (hs : offer.status = .bindCreditCardFirst) :
    ∃ lines, (decideOn offer file).LeadsTo lines (.done ⟨.cardMissing, none⟩) := by
  simp only [decideOn, interpret_of_job h, interpretStatus, hs]
  exact ⟨_, .say (.here _)⟩

theorem decideOn_of_cardUnknown (h : offer.jobUrl ≠ "")
    (hs : offer.status = .creditCardQueryFailed) :
    ∃ lines, (decideOn offer file).LeadsTo lines (.done ⟨.cardUnknown, none⟩) := by
  simp only [decideOn, interpret_of_job h, interpretStatus, hs]
  exact ⟨_, .say (.here _)⟩

theorem decideOn_of_queued (file : String) (h : offer.jobUrl ≠ "") (hs : offer.status = .queued) :
    ∃ lines next, (decideOn offer file).LeadsTo lines (.ask Question.queue.text next) ∧
      Weighs .queue next := by
  simp only [decideOn, interpret_of_job h, interpretStatus, hs]
  refine ⟨_, _, .say (.say (.here _)), fun answer => ?_⟩
  cases answer with
  | error e => exact .log (.here _)
  | ok yes =>
      cases yes with
      | true => exact .say (.here _)
      | false => exact .here _

/-- An offer that leads to no question is settled by what is said on it. -/
theorem decideOn_of_unasked (h : offer.question? = none) :
    (decideOn offer file).LeadsTo (offer.opening file) (.done ⟨offer.exit, none⟩) := by
  suffices hl : ∃ lines, (decideOn offer file).LeadsTo lines (.done ⟨offer.exit, none⟩) from
    hl.elim fun _ hl => hl.to_done
  rcases Offer.exits_of_unasked h with ⟨hj, he⟩ | ⟨hj, hs, he⟩ | ⟨hj, hs, he⟩ | ⟨hj, hm, hn, he⟩
  · exact he ▸ decideOn_of_noJob hj
  · exact he ▸ decideOn_of_cardMissing hj hs
  · exact he ▸ decideOn_of_cardUnknown hj hs
  · obtain ⟨lines, hl⟩ := decideOn_of_isMatch file hj hm
    exact ⟨lines ++ [], he ▸ hl.trans (decideOnMachines_of_noMachines hn)⟩

/-- The machines are shown right before the question whether to launch on them. -/
theorem decideOn_of_shown (file : String) (h : offer.question? = some .launch) :
    ∃ lines, (decideOn offer file).LeadsTo (lines ++ offer.display)
      (askForLaunch offer offer.machines.length) := by
  obtain ⟨hj, hm, hn⟩ := Offer.question?_eq_launch_iff.mp h
  obtain ⟨lines, hl⟩ := decideOn_of_isMatch file hj hm
  exact ⟨lines, hl.trans (decideOnMachines_of_machines hn)⟩

/-- An offer that leads to a question is settled by the answer. -/
theorem decideOn_of_asked {q : Question} (file : String) (h : offer.question? = some q) :
    ∃ next, (decideOn offer file).LeadsTo (offer.opening file) (.ask q.text next) ∧
      Weighs q next := by
  cases q with
  | queue =>
      obtain ⟨hj, hs⟩ := Offer.question?_eq_queue_iff.mp h
      obtain ⟨lines, next, hl, hw⟩ := decideOn_of_queued file hj hs
      exact ⟨next, hl.to_ask, hw⟩
  | launch =>
      obtain ⟨lines, hl⟩ := decideOn_of_shown file h
      obtain ⟨next, ha, hw⟩ := askForLaunch_asks offer offer.machines.length
      exact ⟨next, (ha ▸ hl).to_ask, hw⟩

theorem opening_of_shown (file : String) (h : offer.question? = some .launch) :
    ∃ lines, offer.opening file = lines ++ offer.display := by
  obtain ⟨lines, hl⟩ := decideOn_of_shown file h
  obtain ⟨next, ha, hw⟩ := askForLaunch_asks offer offer.machines.length
  rw [ha] at hl
  exact ⟨lines, by rw [Offer.opening, hl.said_eq, said, List.append_nil]⟩

theorem cancelJob_calls (jobId : String) :
    ∃ next, cancelJob jobId = .call (.stop jobId .falcon) next ∧
      ∀ reply, (next reply).LeadsTo (complaint jobId reply) (.done ()) := by
  refine ⟨_, rfl, fun reply => ?_⟩
  cases reply with
  | ok _ => exact .log (.here _)
  | error e => exact .log (.say (.here _))

theorem settle_of_kept {d : Decision} (h : d.outcome.cancels = false) :
    (settle offer d).LeadsTo [] (.done d.result) := by
  obtain ⟨outcome, unread⟩ := d
  simp only [settle, h]
  cases unread with
  | none => exact .log (.here _)
  | some e => exact .log (.here _)

theorem settle_of_cancelled (offer : Offer) {d : Decision} (h : d.outcome.cancels = true) :
    ∃ next, settle offer d = .call (.stop offer.jobId .falcon) next ∧
      ∀ reply, (next reply).LeadsTo (complaint offer.jobId reply) (.done d.result) := by
  obtain ⟨next, hc, hn⟩ := cancelJob_calls offer.jobId
  obtain ⟨outcome, unread⟩ := d
  simp only [settle, h, hc]
  refine ⟨_, rfl, fun reply => ?_⟩
  apply ((hn reply).bind_done _).trans_nil
  cases unread with
  | none => exact .log (.here _)
  | some e => exact .log (.here _)

end Steps

section Whole

variable {offer : Offer} {file : String}

/-- Without a question, a negotiation only says something. -/
theorem negotiate_of_unasked (h : offer.question? = none) :
    (negotiate offer file).LeadsTo (offer.opening file) (.done (.ok offer.exit)) :=
  ((decideOn_of_unasked h).bind_done _).trans_nil (settle_of_kept Offer.exit_cancels)

/-- What follows the question of a negotiation: a yes ends it, and anything else stops the job
first. -/
structure Heeds (offer : Offer) (q : Question)
    (next : Answer → Program (Except AnswerError Outcome)) : Prop where
  agreed : (next (.ok true)).LeadsTo q.agreement (.done (.ok q.agreed))
  declined : ∀ answer, answer ≠ .ok true →
    ∃ after, (next answer).LeadsTo q.refusal (.call (.stop offer.jobId .falcon) after) ∧
      ∀ reply, (after reply).LeadsTo (complaint offer.jobId reply) (.done (q.verdict answer))

theorem negotiate_of_asked {q : Question} (file : String) (h : offer.question? = some q) :
    ∃ next, (negotiate offer file).LeadsTo (offer.opening file) (.ask q.text next) ∧
      Heeds offer q next := by
  obtain ⟨next, hl, hw⟩ := decideOn_of_asked file h
  refine ⟨_, hl.bind _, ?_, fun answer hno => ?_⟩
  · exact ((hw (.ok true)).bind_done _).trans_nil (settle_of_kept Question.agreed_cancels)
  · obtain ⟨after, hs, ha⟩ := settle_of_cancelled offer (Question.cancels_of_no hno)
    have hn := (hw answer).bind_done (settle offer)
    rw [hs, Question.response_of_no hno] at hn
    exact ⟨after, hn, fun reply => Question.result_decision ▸ ha reply⟩

/-- The courses of a negotiation on an offer, with what it returns. -/
inductive Negotiated (offer : Offer) (opening : List Line) :
    List Exchange → Except AnswerError Outcome → Prop
  | unasked (h : offer.question? = none) :
      Negotiated offer opening (saying opening) (.ok offer.exit)
  | agreed {q : Question} (h : offer.question? = some q) :
      Negotiated offer opening
        (saying opening ++ .answered q.text (.ok true) :: saying q.agreement) (.ok q.agreed)
  | declined {q : Question} (h : offer.question? = some q) {answer : Answer}
      (hno : answer ≠ .ok true) (reply : CallResult (.stop offer.jobId .falcon)) :
      Negotiated offer opening
        (saying opening ++ .answered q.text answer ::
          (saying q.refusal ++ stopping offer.jobId reply)) (q.verdict answer)

theorem negotiated_of_course {course : List Exchange} {r : Except AnswerError Outcome}
    (h : (negotiate offer file).Course course r) :
    Negotiated offer (offer.opening file) course r := by
  cases hq : offer.question? with
  | none =>
      obtain ⟨rfl, rfl⟩ := (negotiate_of_unasked hq).course_done_iff.mp h
      exact .unasked hq
  | some q =>
      obtain ⟨next, hl, hn⟩ := negotiate_of_asked file hq
      obtain ⟨_, rfl, hask⟩ := hl.course_iff.mp h
      obtain ⟨answer, rest, rfl, hrest⟩ := course_ask_iff.mp hask
      by_cases hno : answer = .ok true
      · subst hno
        obtain ⟨rfl, rfl⟩ := hn.agreed.course_done_iff.mp hrest
        exact .agreed hq
      · obtain ⟨after, ha, hr⟩ := hn.declined answer hno
        obtain ⟨_, rfl, hcall⟩ := ha.course_iff.mp hrest
        obtain ⟨reply, _, rfl, hend⟩ := course_call_iff.mp hcall
        obtain ⟨rfl, rfl⟩ := (hr reply).course_done_iff.mp hend
        exact .declined hq hno reply

/-- A negotiation can take every one of these courses, and no other. -/
theorem course_negotiate_iff {course : List Exchange} {r : Except AnswerError Outcome} :
    (negotiate offer file).Course course r ↔ Negotiated offer (offer.opening file) course r := by
  constructor
  · exact negotiated_of_course
  intro h
  cases h with
  | unasked hq => exact (negotiate_of_unasked hq).course_done_iff.mpr ⟨rfl, rfl⟩
  | agreed hq =>
      obtain ⟨next, hl, hn⟩ := negotiate_of_asked file hq
      have hc := hn.agreed.course_done_iff.mpr ⟨rfl, rfl⟩
      exact hl.course_iff.mpr ⟨_, rfl, .ask _ hc⟩
  | declined hq hno reply =>
      obtain ⟨next, hl, hn⟩ := negotiate_of_asked file hq
      obtain ⟨after, ha, hr⟩ := hn.declined _ hno
      have hc := (hr reply).course_done_iff.mpr ⟨rfl, rfl⟩
      exact hl.course_iff.mpr ⟨_, rfl, .ask _ (ha.course_iff.mpr ⟨_, rfl, .call reply hc⟩)⟩

end Whole

end LaunchDesk
