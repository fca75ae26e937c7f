import LaunchDesk.Proofs.Negotiation

/-!
# The decision table

What is asked on an offer, what the answer comes to, and when the machines are shown, each read off
the offer and the answer alone. A negotiation does just that on every host, and always ends.

## Implementation notes

The rows of the table are equivalences, so they say of each outcome when it arises and when not. The
table of machines is found by its place, since the address of a job may be any text, and so also the
text of a table.
-/

namespace LaunchDesk

open Program

namespace Offer

/-- What is said on an offer apart from its machines. -/
def remarks (offer : Offer) (file : String) : List Line :=
  (interpret offer file).said

/-- The line that shows the machines of an offer. -/
def tableLine (offer : Offer) : Line :=
  ⟨.info, machineTable offer.machines⟩

end Offer

section Opening

variable {offer : Offer}

theorem opening_of_isMatch (file : String) (hj : offer.jobUrl ≠ "") (hm : offer.status.isMatch) :
    offer.opening file = offer.remarks file ++ (decideOnMachines offer).said := by
  obtain ⟨lines, hl⟩ := interpretStatus_of_isMatch file hm
  rw [← interpret_of_job hj] at hl
  exact hl.said_bind _

/-- The machines are shown exactly if the user is to be asked about them. -/
theorem opening_eq (offer : Offer) (file : String) : offer.opening file =
    offer.remarks file ++ if offer.question? = some .launch then offer.display else [] := by
  cases hq : offer.question? with
  | none =>
      rw [if_neg (by simp)]
      rcases Offer.exits_of_unasked hq with ⟨hj, -⟩ | ⟨hj, hs, -⟩ | ⟨hj, hs, -⟩ | ⟨hj, hm, hn, -⟩
      · obtain ⟨lines, hl⟩ := interpret_of_noJob file hj
        exact hl.said_bind _
      · simp only [Offer.opening, Offer.remarks, decideOn, interpret_of_job hj, interpretStatus, hs]
        rfl
      · simp only [Offer.opening, Offer.remarks, decideOn, interpret_of_job hj, interpretStatus, hs]
        rfl
      · rw [opening_of_isMatch file hj hm, (decideOnMachines_of_noMachines hn).said_eq]
        rfl
  | some q =>
      cases q with
      | queue =>
          obtain ⟨hj, hs⟩ := Offer.question?_eq_queue_iff.mp hq
          simp only [Offer.opening, Offer.remarks, decideOn, interpret_of_job hj, interpretStatus,
            hs]
          rfl
      | launch =>
          obtain ⟨hj, hm, hn⟩ := Offer.question?_eq_launch_iff.mp hq
          obtain ⟨next, ha, -⟩ := askForLaunch_asks offer offer.machines.length
          rw [opening_of_isMatch file hj hm, (decideOnMachines_of_machines hn).said_eq, ha,
            if_pos rfl, said, List.append_nil]

/-- A table begins with the corner of its frame. -/
theorem head?_machineTable (machines : List Machine) :
    (machineTable machines).toList.head? = some '+' := by
  have hrule : ∀ rest, (List.intercalate ['\n']
      (Table.rule (Table.widths Machine.columns machines) :: rest)).head? = some '+' := by
    intro rest
    cases rest <;> simp [Table.rule]
  simp only [machineTable, Table.render, Table.lines, String.toList_ofList]
  exact hrule _

theorem tableLine_ne {text : String} (h : text.toList.head? ≠ some '+') :
    offer.tableLine ≠ ⟨.info, text⟩ := by
  intro heq
  apply h
  rw [← show offer.tableLine.text = text from congrArg Line.text heq]
  exact head?_machineTable offer.machines

theorem tableLine_ne_of_tone {tone : Tone} (h : tone ≠ .info) (text : String) :
    offer.tableLine ≠ ⟨tone, text⟩ := by
  intro heq
  exact h (congrArg Line.tone heq).symm

theorem tableLine_not_mem_remarks (offer : Offer) (file : String) :
    offer.tableLine ∉ offer.remarks file := by
  have hempty : offer.tableLine ≠ ⟨.info, ""⟩ := tableLine_ne (by decide)
  have hnotice : offer.tableLine ≠ ⟨.info,
      "No resource available now, but we can keep your job in the waiting queue."⟩ :=
    tableLine_ne (by decide)
  intro hm
  unfold Offer.remarks interpret at hm
  split at hm
  · unfold interpretStatus offerQueue at hm
    cases hs : offer.status <;>
      simp [hs, said, info, warn, error, ask, log, hempty, hnotice, tableLine_ne_of_tone] at hm
  · unfold reportNoJob at hm
    cases ho : offer.message <;> simp [ho, said, error, tableLine_ne_of_tone] at hm

/-- The table is none of what is said behind a question. -/
theorem tableLine_not_mem_agreement (q : Question) : offer.tableLine ∉ q.agreement := by
  cases q with
  | queue => simpa [Question.agreement] using tableLine_ne_of_tone (by decide) _
  | launch => simpa [Question.agreement] using tableLine_ne (by decide)

theorem tableLine_not_mem_refusal (q : Question) : offer.tableLine ∉ q.refusal := by
  cases q with
  | queue => simp [Question.refusal]
  | launch => simpa [Question.refusal] using tableLine_ne (by decide)

theorem tableLine_not_mem_complaint (jobId : String) (reply : Except CallError Unit) :
    offer.tableLine ∉ complaint jobId reply := by
  cases reply with
  | ok _ => simp [complaint]
  | error e => simpa [complaint] using tableLine_ne_of_tone (by decide) _

end Opening

section Table

/-- What is asked on an offer. -/
structure Offer.Asks (offer : Offer) (questions : List String) : Prop where
  atMostOne : questions.length ≤ 1
  queue : queueQuestion ∈ questions ↔ offer.jobUrl ≠ "" ∧ offer.status = .queued
  launch : launchQuestion ∈ questions ↔
    offer.jobUrl ≠ "" ∧ offer.status.isMatch ∧ offer.machines ≠ []
  others : ∀ question ∈ questions, question = queueQuestion ∨ question = launchQuestion

/-- What a negotiation on an offer returns: each outcome for its own reason, and a failure exactly
for an answer that could not be read. -/
structure Offer.ComesTo (offer : Offer) (answers : List (String × Answer))
    (result : Except AnswerError Outcome) : Prop where
  noJob : result = .ok .noJob ↔ offer.jobUrl = ""
  cardMissing : result = .ok .cardMissing ↔
    offer.jobUrl ≠ "" ∧ offer.status = .bindCreditCardFirst
  cardUnknown : result = .ok .cardUnknown ↔
    offer.jobUrl ≠ "" ∧ offer.status = .creditCardQueryFailed
  noMachines : result = .ok .noMachines ↔
    offer.jobUrl ≠ "" ∧ offer.status.isMatch ∧ offer.machines = []
  queued : result = .ok .queued ↔ (queueQuestion, .ok true) ∈ answers
  queueDeclined : result = .ok .queueDeclined ↔ (queueQuestion, .ok false) ∈ answers
  accepted : result = .ok .accepted ↔ (launchQuestion, .ok true) ∈ answers
  rejected : result = .ok .rejected ↔ (launchQuestion, .ok false) ∈ answers
  unread : ∀ e, result = .error e ↔ ∃ question, (question, .error e) ∈ answers

/-- The machines are shown once and right before the question about them, if it is asked, and else
not at all. -/
structure Offer.Shows (offer : Offer) (trace : List Event) : Prop where
  shown : offer.tableLine ∈ Trace.lines trace ↔ launchQuestion ∈ Trace.questions trace
  before : launchQuestion ∈ Trace.questions trace → ∃ front rest,
    Trace.acts trace = front ++ offer.display.map .said ++ .asked launchQuestion :: rest ∧
      offer.tableLine ∉ Trace.lines front ∧ offer.tableLine ∉ Trace.lines rest
  /-- An address that is no table itself shows no second one. -/
  once : launchQuestion ∈ Trace.questions trace → offer.jobUrl ≠ machineTable offer.machines →
    (Trace.lines trace).count offer.tableLine = 1

variable {offer : Offer} {file : String} {opening : List Line} {course : List Exchange}
  {r : Except AnswerError Outcome}

theorem StartStatus.isMatch_iff {s : StartStatus} :
    s.isMatch ↔ s ≠ .queued ∧ s ≠ .bindCreditCardFirst ∧ s ≠ .creditCardQueryFailed := by
  cases s <;> simp [isMatch]

theorem Offer.asks_question? (offer : Offer) :
    offer.Asks (offer.question?.toList.map Question.text) := by
  have hne := launchQuestion_ne_queueQuestion
  cases hq : offer.question? with
  | none =>
      constructor <;> simp [← question?_eq_queue_iff, ← question?_eq_launch_iff, hq]
  | some q =>
      cases q with
      | queue =>
          constructor <;> simp [← question?_eq_queue_iff, ← question?_eq_launch_iff, hq, hne]
      | launch =>
          constructor <;> simp [← question?_eq_queue_iff, ← question?_eq_launch_iff, hq, hne.symm]

theorem Offer.comesTo_exit (h : offer.question? = none) : offer.ComesTo [] (.ok offer.exit) := by
  rcases exits_of_unasked h with ⟨hj, he⟩ | ⟨hj, hs, he⟩ | ⟨hj, hs, he⟩ | ⟨hj, hm, hn, he⟩
  · constructor <;> simp [he, hj]
  · constructor <;> simp [he, hj, hs, StartStatus.isMatch]
  · constructor <;> simp [he, hj, hs, StartStatus.isMatch]
  · obtain ⟨-, hb, hc⟩ := StartStatus.isMatch_iff.mp hm
    constructor <;> simp [he, hj, hm, hn, hb, hc]

theorem Offer.comesTo_verdict {q : Question} (h : offer.question? = some q) (answer : Answer) :
    offer.ComesTo [(q.text, answer)] (q.verdict answer) := by
  have hne := launchQuestion_ne_queueQuestion
  cases q with
  | queue =>
      obtain ⟨hj, hs⟩ := question?_eq_queue_iff.mp h
      rcases answer with e | ⟨_ | _⟩ <;> constructor <;>
        simp [hj, hs, StartStatus.isMatch, Question.verdict, Question.declined, Question.agreed,
          hne, eq_comm]
  | launch =>
      obtain ⟨hj, hm, hn⟩ := question?_eq_launch_iff.mp h
      obtain ⟨-, hb, hc⟩ := StartStatus.isMatch_iff.mp hm
      rcases answer with e | ⟨_ | _⟩ <;> constructor <;>
        simp [hj, hm, hn, hb, hc, Question.verdict, Question.declined, Question.agreed, hne,
          eq_comm]

theorem Negotiated.questions (h : Negotiated offer opening course r) :
    (answersOf course).map Prod.fst = offer.question?.toList.map Question.text := by
  cases h with
  | unasked hq => simp [hq]
  | agreed hq => simp [hq]
  | declined hq hno reply => simp [hq]

theorem Negotiated.comesTo (h : Negotiated offer opening course r) :
    offer.ComesTo (answersOf course) r := by
  cases h with
  | unasked hq => simpa using Offer.comesTo_exit hq
  | agreed hq => simpa [Question.verdict] using Offer.comesTo_verdict hq (.ok true)
  | @declined q hq answer hno reply => simpa using Offer.comesTo_verdict hq answer

/-- Behind the question of a negotiation there is no table. -/
theorem Negotiated.asked {q : Question} (h : Negotiated offer opening course r)
    (hq : offer.question? = some q) : ∃ answer rest,
      course = saying opening ++ .answered q.text answer :: rest ∧
        offer.tableLine ∉ linesOf rest := by
  cases h with
  | unasked hnone => simp [hq] at hnone
  | agreed hq' =>
      obtain rfl := Option.some.inj (hq.symm.trans hq')
      exact ⟨_, _, rfl, by simpa using tableLine_not_mem_agreement q⟩
  | declined hq' hno reply =>
      obtain rfl := Option.some.inj (hq.symm.trans hq')
      refine ⟨_, _, rfl, ?_⟩
      simp [stopping, tableLine_not_mem_refusal, tableLine_not_mem_complaint]

theorem count_display (h : offer.jobUrl ≠ machineTable offer.machines) :
    offer.display.count offer.tableLine = 1 := by
  have hempty : offer.tableLine ≠ ⟨.info, ""⟩ := tableLine_ne (by decide)
  have htitle : offer.tableLine ≠
      ⟨.info, "Searched and matched the following GPU resource for your job:"⟩ :=
    tableLine_ne (by decide)
  have hhint : offer.tableLine ≠
      ⟨.info, "You can also view the matched GPU resource with Web UI at: "⟩ :=
    tableLine_ne (by decide)
  have haddress : offer.tableLine ≠ ⟨.info, offer.jobUrl⟩ := fun heq =>
    h (congrArg Line.text heq).symm
  have htable : (⟨.info, machineTable offer.machines⟩ : Line) = offer.tableLine := rfl
  simp [Offer.display, htable, List.count_cons_of_ne, hempty.symm, htitle.symm, hhint.symm,
    haddress.symm]

theorem tableLine_mem_display : offer.tableLine ∈ offer.display := by
  simp [Offer.display, Offer.tableLine]

theorem Negotiated.tableLine_not_mem (h : Negotiated offer (offer.opening file) course r)
    (hq : offer.question? ≠ some .launch) : offer.tableLine ∉ linesOf course := by
  have hopening : offer.tableLine ∉ offer.opening file := by
    rw [opening_eq, if_neg hq, List.append_nil]
    exact tableLine_not_mem_remarks offer file
  cases hasked : offer.question? with
  | none =>
      cases h with
      | unasked _ => rwa [linesOf_saying]
      | agreed hq' => simp [hasked] at hq'
      | declined hq' hno reply => simp [hasked] at hq'
  | some q =>
      obtain ⟨answer, rest, rfl, hrest⟩ := h.asked hasked
      simp [hopening, hrest]

theorem launchQuestion_mem_iff :
    launchQuestion ∈ offer.question?.toList.map Question.text ↔
      offer.question? = some .launch := by
  rw [offer.asks_question?.launch, Offer.question?_eq_launch_iff]

theorem Negotiated.shows (h : Negotiated offer (offer.opening file) course r) {trace : List Event}
    (ht : Trace.acts trace = course.map Exchange.event) : offer.Shows trace := by
  have hlines : Trace.lines trace = linesOf course := by
    rw [← Trace.lines_acts, ht, lines_map_event]
  have hquestions : Trace.questions trace = offer.question?.toList.map Question.text := by
    rw [← Trace.questions_acts, ht, questions_map_event, h.questions]
  by_cases hq : offer.question? = some .launch
  · obtain ⟨answer, rest, rfl, hrest⟩ := h.asked hq
    have hopening : offer.opening file = offer.remarks file ++ offer.display := by
      rw [opening_eq, if_pos hq]
    have hremarks := tableLine_not_mem_remarks offer file
    refine ⟨?_, fun _ => ?_, fun _ hurl => ?_⟩
    · simp [hlines, hquestions, hq, hopening, tableLine_mem_display]
    · refine ⟨(saying (offer.remarks file)).map Exchange.event, rest.map Exchange.event, ?_, ?_, ?_⟩
      · simp [ht, hopening, saying, Exchange.event]
      · rwa [lines_map_event, linesOf_saying]
      · rwa [lines_map_event]
    · simp [hlines, hopening, count_display hurl, List.count_eq_zero_of_not_mem hremarks,
        List.count_eq_zero_of_not_mem hrest]
  · have hno : launchQuestion ∉ Trace.questions trace := by
      rwa [hquestions, launchQuestion_mem_iff]
    have hnone : offer.tableLine ∉ Trace.lines trace := hlines ▸ h.tableLine_not_mem hq
    exact ⟨iff_of_false hnone hno, fun hm => absurd hm hno, fun hm => absurd hm hno⟩

end Table

/-- A negotiation follows the table on every platform and with every user: the offer alone says
whether a question is asked and which one, and with the answer it says what is returned. The
machines are shown once, before the question about them, and only then. -/
theorem negotiation_follows_table {σ : Type} (offer : Offer) (file : String) (host : Host σ)
    (s : σ) :
    let run := (negotiate offer file).run host s
    let answers := answersOf ((negotiate offer file).history host s)
    answers.map Prod.fst = Trace.questions run.trace ∧ offer.Asks (Trace.questions run.trace) ∧
      offer.ComesTo answers run.result ∧ offer.Shows run.trace := by
  intro run answers
  have h : Negotiated offer (offer.opening file) ((negotiate offer file).history host s)
      run.result := negotiated_of_course (course_history host _ s)
  have hquestions : answers.map Prod.fst = Trace.questions run.trace :=
    (questions_run_trace host _ s).symm
  refine ⟨hquestions, ?_, h.comesTo, h.shows (map_event_history host _ s).symm⟩
  rw [← hquestions, h.questions]
  exact offer.asks_question?

end LaunchDesk
