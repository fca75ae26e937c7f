import LaunchDesk.Proofs.Agreement
import LaunchDesk.Proofs.Launch
import LaunchDesk.Rehearsal

/-!
# Answers that cannot be read

An answer that cannot be read counts as a no: the run goes on as it would on a no, with the same
lines, questions, calls and requests, and only its result tells the two apart. This compares two
runs on hosts that differ in a single answer.

## Implementation notes

The question is singled out by its place in the run, so a host may answer the same question in
different ways at different times. Behind that question the two hosts are the same host again.
-/

namespace LaunchDesk

/-- A host that gives a certain answer to one question, counted from zero, and is otherwise another
host. Its state holds the number of questions so far. -/
def Host.answering {σ : Type} (host : Host σ) (k : Nat) (answer : Answer) : Host (σ × Nat) where
  serve := fun c (s, n) =>
    let served := host.serve c s
    ⟨served.result, served.notes, served.requests, (served.state, n)⟩
  answer := fun question (s, n) =>
    let (own, s) := host.answer question s
    (if n = k then answer else own, (s, n + 1))

@[simp] theorem Trace.questions_asked (question : String) (t : List Event) :
    questions (.asked question :: t) = question :: questions t := rfl

@[simp] theorem Trace.questions_called (c : Call) (t : List Event) :
    questions (.called c :: t) = questions t := rfl

namespace Program

variable {σ α β : Type}

section Answering

variable (host : Host σ) {k n : Nat} (a : Answer) (s : σ)

theorem run_ask_answering (question : String) (next : Answer → Program α) :
    (ask question next).run (host.answering n a) (s, n) =
      ((next a).run (host.answering n a) ((host.answer question s).2, n + 1)).after
        [.asked question] := by
  simp [Host.answering]

theorem run_ask_answering_of_ne (h : n ≠ k) (question : String) (next : Answer → Program α) :
    (ask question next).run (host.answering k a) (s, n) =
      ((next (host.answer question s).1).run (host.answering k a)
        ((host.answer question s).2, n + 1)).after [.asked question] := by
  simp [Host.answering, h]

theorem run_call_answering (c : Call) (next : CallResult c → Program α) :
    (call c next).run (host.answering k a) (s, n) =
      ((next (host.serve c s).result).run (host.answering k a) ((host.serve c s).state, n)).after
        (.called c :: (host.serve c s).events) := rfl

/-- Behind the question it is about, a certain answer makes no difference. -/
theorem run_answering_of_lt (h : k < n) (b : Answer) (p : Program α) :
    p.run (host.answering k a) (s, n) = p.run (host.answering k b) (s, n) := by
  induction p generalizing s n with
  | done result => rfl
  | say line next ih => simp only [run_say, ih s h]
  | log entry next ih => simp only [run_log, ih s h]
  | ask question next ih =>
      have hn : n ≠ k := by omega
      simp only [run_ask_answering_of_ne host _ s hn, ih _ _ (Nat.lt_succ_of_lt h)]
  | call c next ih => simp only [run_call_answering, ih _ _ h]

end Answering

/-- A program that goes on from an answer it cannot read as it does from a no, to results that are
related with the reason. -/
inductive UnreadAsNo (R : AnswerError → α → α → Prop) : Program α → Prop
  | done (a : α) : UnreadAsNo R (.done a)
  | say {line next} (tail : UnreadAsNo R next) : UnreadAsNo R (.say line next)
  | log {entry next} (tail : UnreadAsNo R next) : UnreadAsNo R (.log entry next)
  | ask {question next} (hno : ∀ e, Agree (R e) (next (.ok false)) (next (.error e)))
      (tail : ∀ answer, UnreadAsNo R (next answer)) : UnreadAsNo R (.ask question next)
  | call {c next} (tail : ∀ reply, UnreadAsNo R (next reply)) : UnreadAsNo R (.call c next)

namespace UnreadAsNo

variable {R : AnswerError → α → α → Prop} {S : AnswerError → β → β → Prop} {p q : Program α}
  {lines : List Line}

/-- The runs of such a program on a no and on an answer that cannot be read are alike, and if the
question is asked at all, their results are related. -/
theorem run (h : p.UnreadAsNo R) (host : Host σ) (k n : Nat) (s : σ) (e : AnswerError) :
    let no := p.run (host.answering k (.ok false)) (s, n)
    let unread := p.run (host.answering k (.error e)) (s, n)
    no.Alike unread ∧
      (n ≤ k → k < n + (Trace.questions no.trace).length → R e no.result unread.result) := by
  induction h generalizing s n with
  | done a =>
      refine ⟨⟨rfl, rfl⟩, ?_⟩
      intro hle hlt
      have hlt : k < n := hlt
      omega
  | say tail ih =>
      obtain ⟨ha, hR⟩ := ih n s
      exact ⟨ha.after _, hR⟩
  | log tail ih =>
      obtain ⟨ha, hR⟩ := ih n s
      exact ⟨ha.after _, hR⟩
  | @ask question next hno tail ih =>
      by_cases hn : n = k
      · -- The answers differ here, and behind this question the two hosts are one.
        subst hn
        obtain ⟨ha, hR⟩ := (hno e).run (host.answering n (.ok false))
          ((host.answer question s).2, n + 1)
        have hlt : n < n + 1 := n.lt_succ_self
        simp only [run_ask_answering, run_answering_of_lt host (.error e) _ hlt (.ok false)]
        exact ⟨ha.after _, fun _ _ => hR⟩
      · obtain ⟨ha, hR⟩ := ih (host.answer question s).1 (n + 1) (host.answer question s).2
        simp only [run_ask_answering_of_ne host _ s hn]
        refine ⟨ha.after _, ?_⟩
        intro hle hlt
        simp only [Run.trace_after, List.singleton_append, Trace.questions_asked,
          List.length_cons] at hlt
        apply hR
        · omega
        · omega
  | @call c next tail ih =>
      obtain ⟨ha, hR⟩ := ih (host.serve c s).result n (host.serve c s).state
      simp only [run_call_answering]
      refine ⟨ha.after _, ?_⟩
      intro hle hlt
      apply hR hle
      simpa [Trace.questions_events] using hlt

theorem of_leadsTo (hl : p.LeadsTo lines q) (h : q.UnreadAsNo R) : p.UnreadAsNo R := by
  induction hl with
  | here q => exact h
  | say tail ih => exact .say (ih h)
  | log tail ih => exact .log (ih h)

/-- What follows such a program has to take related results the same way. -/
theorem bind (h : p.UnreadAsNo R) {f : α → Program β}
    (hR : ∀ e a b, R e a b → Agree (S e) (f a) (f b)) (hf : ∀ a, (f a).UnreadAsNo S) :
    (p.bind f).UnreadAsNo S := by
  induction h with
  | done a => exact hf a
  | say tail ih => exact .say ih
  | log tail ih => exact .log ih
  | ask hno tail ih => exact .ask (fun e => (hno e).bind (hR e)) ih
  | call tail ih => exact .call ih

end UnreadAsNo

end Program

open Program

section Negotiations

variable {offer : Offer} {file : String} {q : Question}
  {next : Answer → Program (Except AnswerError Outcome)}

/-- A no and an answer that cannot be read stop the same job and differ in the verdict. -/
theorem Heeds.agree (h : Heeds offer q next) (e : AnswerError) :
    Agree (fun no unread => no = .ok q.declined ∧ unread = .error e)
      (next (.ok false)) (next (.error e)) := by
  obtain ⟨after, hl, ha⟩ := h.declined (.ok false) (by simp)
  obtain ⟨after', hl', ha'⟩ := h.declined (.error e) (by simp)
  exact hl.agree hl' (.call fun reply => (ha reply).agree (ha' reply) (.done ⟨rfl, rfl⟩))

theorem negotiate_unreadAsNo (offer : Offer) (file : String) :
    (negotiate offer file).UnreadAsNo fun e no unread =>
      ∃ q, offer.question? = some q ∧ no = .ok q.declined ∧ unread = .error e := by
  cases hq : offer.question? with
  | none => exact .of_leadsTo (negotiate_of_unasked hq) (.done _)
  | some q =>
      obtain ⟨next, hl, hn⟩ := negotiate_of_asked file hq
      apply UnreadAsNo.of_leadsTo hl
      apply UnreadAsNo.ask
      · intro e
        simpa using hn.agree e
      · intro answer
        by_cases hno : answer = .ok true
        · subst hno
          exact .of_leadsTo hn.agreed (.done _)
        · obtain ⟨after, ha, hr⟩ := hn.declined answer hno
          exact .of_leadsTo ha (.call fun reply => .of_leadsTo (hr reply) (.done _))

end Negotiations

section Launches

/-- What completes a launch asks nothing, so no relation between its results is ever needed. -/
theorem startJob_unreadAsNo (offer : Offer) :
    (startJob offer).UnreadAsNo fun _ _ _ => False := by
  obtain ⟨next, hs, hok, herr⟩ := startJob_calls offer
  rw [hs]
  apply UnreadAsNo.call
  intro reply
  cases reply with
  | error e => exact .of_leadsTo (herr e) (.done _)
  | ok receipt =>
      apply UnreadAsNo.of_leadsTo (hok receipt)
      unfold reportReceipt
      split
      · exact .of_leadsTo (reportNotStarted_leadsTo _) (.done _)
      · obtain ⟨next, hp, hn⟩ := reportProgress_calls receipt
        rw [hp]
        exact .call fun reply => .of_leadsTo (hn reply) (.done _)

theorem startOnCluster_unreadAsNo (offer : Offer) :
    (startOnCluster offer).UnreadAsNo fun _ _ _ => False := by
  unfold startOnCluster
  split
  · obtain ⟨next, hc, hn⟩ := confirmCluster_calls offer _
    rw [hc]
    exact .call fun reply => .of_leadsTo (hn reply) (.done _)
  · exact .say (.done _)

/-- The results of two launches, one on a no and one on an answer that could not be read. -/
def EndsUnread (e : AnswerError) (no unread : Except LaunchError Unit) : Prop :=
  no = .ok () ∧ unread = .error (.unread e)

theorem conclude_unreadAsNo {complete : Offer → Program Unit} {offer : Offer}
    (h : (complete offer).UnreadAsNo fun _ _ _ => False) (r : Except AnswerError Outcome) :
    (conclude complete offer r).UnreadAsNo EndsUnread := by
  rcases r with e | outcome
  · exact .done _
  · cases hp : outcome.proceeds with
    | false =>
        rw [conclude_of_ended hp]
        exact .done _
    | true =>
        obtain rfl : outcome = .accepted := by simpa [Outcome.proceeds] using hp
        exact h.bind (fun _ _ _ hf => hf.elim) fun _ => .done _

theorem proceed_unreadAsNo {complete : Offer → Program Unit}
    (h : ∀ offer, (complete offer).UnreadAsNo fun _ _ _ => False) (file : String)
    (reply : Except CallError Offer) : (proceed file complete reply).UnreadAsNo EndsUnread := by
  cases reply with
  | error e => exact .of_leadsTo (proceed_unscheduled e) (.done _)
  | ok offer =>
      rw [proceed_scheduled]
      apply (negotiate_unreadAsNo offer file).bind
      · rintro e _ _ ⟨q, -, rfl, rfl⟩
        have hno : conclude complete offer (.ok q.declined) = .done (.ok ()) := by cases q <;> rfl
        rw [hno]
        exact .done ⟨rfl, rfl⟩
      · exact conclude_unreadAsNo (h offer)

theorem launch_unreadAsNo (order : Order) : (launch order).UnreadAsNo EndsUnread := by
  cases hf : order.files with
  | nil =>
      simp only [launch, hf]
      exact .done _
  | cons file others =>
      apply UnreadAsNo.of_leadsTo (launch_of_files hf)
      cases order.cluster with
      | none => exact .call (proceed_unreadAsNo startJob_unreadAsNo file)
      | some name => exact .call (proceed_unreadAsNo startOnCluster_unreadAsNo file)

end Launches

/-- A launch goes on from an answer that it cannot read just as from a no, whichever question it is
that the two runs differ in: but for the log the runs are alike. Where the question is asked, the
launch ends well on the no, and with the reason, as it came, on the other. A negotiation does the
same, and on the no it ends on the outcome of the question that its offer leads to. -/
theorem unread_answer_taken_for_no {σ : Type} (order : Order) (host : Host σ) (s : σ) (k : Nat)
    (e : AnswerError) :
    (let no := (launch order).run (host.answering k (.ok false)) (s, 0)
      let unread := (launch order).run (host.answering k (.error e)) (s, 0)
      no.Alike unread ∧ (k < (Trace.questions no.trace).length →
        no.result = .ok () ∧ unread.result = .error (.unread e))) ∧
    ∀ (offer : Offer) (file : String),
      let no := (negotiate offer file).run (host.answering k (.ok false)) (s, 0)
      let unread := (negotiate offer file).run (host.answering k (.error e)) (s, 0)
      no.Alike unread ∧ (k < (Trace.questions no.trace).length →
        ∃ q, offer.question? = some q ∧ no.result = .ok q.declined ∧ unread.result = .error e) := by
  constructor
  · obtain ⟨ha, hR⟩ := (launch_unreadAsNo order).run host k 0 s e
    refine ⟨ha, ?_⟩
    intro hk
    exact hR k.zero_le (by omega)
  · intro offer file
    obtain ⟨ha, hR⟩ := (negotiate_unreadAsNo offer file).run host k 0 s e
    refine ⟨ha, ?_⟩
    intro hk
    exact hR k.zero_le (by omega)

/-- An answer that cannot be read, on a platform that cannot stop the job either. -/
theorem unread_answer_for_sample :
    let order : Order := ⟨["job.yaml"], none, none⟩
    let host := (Rehearsal.smooth (.sample .queued)).withoutStop.host
    let unread := (launch order).run (host.answering 0 (.error ⟨"closed", []⟩)) ([], 0)
    unread.result = .error (.unread ⟨"closed", []⟩) :=
  ((unread_answer_taken_for_no ⟨["job.yaml"], none, none⟩
    (Rehearsal.smooth (.sample .queued)).withoutStop.host [] 0 ⟨"closed", []⟩).1.2 (by decide)).2

end LaunchDesk
