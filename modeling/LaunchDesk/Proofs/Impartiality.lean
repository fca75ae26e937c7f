import LaunchDesk.Proofs.Refinement

/-!
# The platform has no say

A negotiation asks and decides the same whatever the platform is. The platform is called only to
stop a job that is already turned down, and if it fails to, the user is told so and nothing else
changes.

## Implementation notes

Two platforms are compared with one user, whose answers do not depend on the platform. Up to the
call they have no occasion to differ; behind it the replies may differ, and each shows in one line
or in none.
-/

namespace LaunchDesk

open Program

section Negotiations

variable {σ : Type} {offer : Offer} {q : Question} (host : Host σ) (s : σ)

theorem negotiate_takes_agreed (file : String) (h : offer.question? = some q)
    (hyes : (host.answer q.text s).1 = .ok true) :
    Takes host (negotiate offer file) s
      (saying (offer.opening file) ++ .answered q.text (.ok true) :: saying q.agreement)
      (.ok q.agreed) (host.answer q.text s).2 := by
  obtain ⟨next, hl, hn⟩ := negotiate_of_asked file h
  rw [← hyes]
  apply hl.takes
  apply Takes.ask
  rw [hyes]
  exact hn.agreed.takes_done host _

/-- Behind anything but a yes the platform is called once, and only its reply to this call shows. -/
theorem negotiate_takes_declined (file : String) (h : offer.question? = some q)
    (hno : (host.answer q.text s).1 ≠ .ok true) :
    Takes host (negotiate offer file) s
      (saying (offer.opening file) ++ .answered q.text (host.answer q.text s).1 ::
        (saying q.refusal ++ stopping offer.jobId
          (host.serve (.stop offer.jobId .falcon) (host.answer q.text s).2).result))
      (q.verdict (host.answer q.text s).1)
      (host.serve (.stop offer.jobId .falcon) (host.answer q.text s).2).state := by
  obtain ⟨next, hl, hn⟩ := negotiate_of_asked file h
  obtain ⟨after, ha, hr⟩ := hn.declined _ hno
  apply hl.takes
  apply Takes.ask
  apply ha.takes
  apply Takes.call
  exact (hr _).takes_done host _

end Negotiations

/-- The call that may end a negotiation, with the reply of a platform. -/
def ending (offer : Offer) (stops : Bool) (reply : CallResult (.stop offer.jobId .falcon)) :
    List Exchange :=
  if stops then stopping offer.jobId reply else []

/-- What is seen of the call to stop a job: the call, and one line if it fails. -/
def stopActs (jobId : String) (reply : CallResult (.stop jobId .falcon)) : List Event :=
  .called (.stop jobId .falcon) :: (complaint jobId reply).map .said

section User

variable {τ : Type}

/-- The user alone settles a negotiation: how it goes up to a call to stop the job, whether there is
one, and what is returned. -/
theorem negotiate_settled (offer : Offer) (file : String) (answer : String → τ → Answer × τ)
    (t : τ) : ∃ (front : List Exchange) (stops : Bool) (r : Except AnswerError Outcome) (t' : τ),
      callsOf front = [] ∧ ∀ (σ : Type) (serve : (c : Call) → σ → Served σ c) (s : σ), ∃ s' : σ,
        Takes (.of serve answer) (negotiate offer file) (s, t)
          (front ++ ending offer stops (serve _ s).result) r (s', t') := by
  cases hq : offer.question? with
  | none =>
      refine ⟨saying (offer.opening file), false, .ok offer.exit, t, callsOf_saying, ?_⟩
      intro σ serve s
      refine ⟨s, ?_⟩
      simpa [ending] using (negotiate_of_unasked hq).takes_done (.of serve answer) (s, t)
  | some q =>
      by_cases hyes : (answer q.text t).1 = .ok true
      · refine ⟨saying (offer.opening file) ++ .answered q.text (.ok true) :: saying q.agreement,
          false, .ok q.agreed, (answer q.text t).2, by simp, ?_⟩
        intro σ serve s
        refine ⟨s, ?_⟩
        simpa [ending, Host.of] using
          negotiate_takes_agreed (.of serve answer) (s, t) file hq hyes
      · refine ⟨saying (offer.opening file) ++
            .answered q.text (answer q.text t).1 :: saying q.refusal,
          true, q.verdict (answer q.text t).1, (answer q.text t).2, by simp, ?_⟩
        intro σ serve s
        refine ⟨(serve (.stop offer.jobId .falcon) s).state, ?_⟩
        simpa [ending, Host.of] using
          negotiate_takes_declined (.of serve answer) (s, t) file hq hyes

theorem map_event_ending (offer : Offer) (reply : CallResult (.stop offer.jobId .falcon)) :
    (ending offer true reply).map Exchange.event = stopActs offer.jobId reply := by
  simp [ending, stopping, stopActs, saying, Exchange.event]

theorem callsOf_ending (offer : Offer) (stops : Bool)
    (reply other : CallResult (.stop offer.jobId .falcon)) :
    callsOf (ending offer stops reply) = callsOf (ending offer stops other) := by
  cases stops <;> simp [ending]

theorem answersOf_ending (offer : Offer) (stops : Bool)
    (reply : CallResult (.stop offer.jobId .falcon)) :
    answersOf (ending offer stops reply) = [] := by
  cases stops <;> simp [ending]

end User

/-- The platform has no part in a negotiation: with any two platforms and one user the same calls
are made, the same questions are asked, and the same is returned. What is seen is the same, too, up
to the call to stop the job, if there is one; nothing is seen behind this call if it succeeds, and
one line if it fails. -/
theorem platform_has_no_say {σ σ' τ : Type} (offer : Offer) (file : String)
    (answer : String → τ → Answer × τ) (serve : (c : Call) → σ → Served σ c)
    (serve' : (c : Call) → σ' → Served σ' c) (s : σ) (s' : σ') (t : τ) :
    let run := (negotiate offer file).run (.of serve answer) (s, t)
    let run' := (negotiate offer file).run (.of serve' answer) (s', t)
    run'.result = run.result ∧ run'.state.2 = run.state.2 ∧
      Trace.calls run'.trace = Trace.calls run.trace ∧
      Trace.questions run'.trace = Trace.questions run.trace ∧
      ((Trace.calls run.trace = [] ∧ Trace.acts run'.trace = Trace.acts run.trace) ∨
        ∃ front : List Event, Trace.calls front = [] ∧
          Trace.acts run.trace =
            front ++ stopActs offer.jobId (serve (.stop offer.jobId .falcon) s).result ∧
          Trace.acts run'.trace =
            front ++ stopActs offer.jobId (serve' (.stop offer.jobId .falcon) s').result) := by
  intro run run'
  obtain ⟨front, stops, r, t', hfront, htakes⟩ := negotiate_settled offer file answer t
  obtain ⟨left, h⟩ := htakes σ serve s
  obtain ⟨left', h'⟩ := htakes σ' serve' s'
  refine ⟨h'.result.trans h.result.symm, ?_, ?_, ?_, ?_⟩
  · rw [h.state, h'.state]
  · rw [h.calls_eq, h'.calls_eq, callsOf_append, callsOf_append]
    exact congrArg _ (callsOf_ending ..)
  · rw [h.questions_eq, h'.questions_eq, answersOf_append, answersOf_append, answersOf_ending,
      answersOf_ending]
  · cases stops with
    | false =>
        refine Or.inl ⟨?_, ?_⟩
        · rw [h.calls_eq, callsOf_append, hfront]
          rfl
        · rw [h.acts_eq, h'.acts_eq]
          rfl
    | true =>
        refine Or.inr ⟨front.map Exchange.event, ?_, ?_, ?_⟩
        · rw [calls_map_event, hfront]
        · rw [h.acts_eq, List.map_append, map_event_ending]
        · rw [h'.acts_eq, List.map_append, map_event_ending]

end LaunchDesk
