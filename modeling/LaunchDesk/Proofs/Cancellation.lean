import LaunchDesk.Proofs.Launch
import LaunchDesk.Rehearsal

/-!
# The job that nobody wants

A job that the user turned away from is stopped, once and last of all, and no other job is. What
counts as turning away is read off the history of a launch: the offer, the question and the answer.
-/

namespace LaunchDesk

open Program

variable {σ : Type}

/-- A question of a course got a no, or its answer could not be read. -/
def Declines (course : List Exchange) (question : String) : Prop :=
  ∃ answer, .answered question answer ∈ course ∧ answer ≠ .ok true

/-- The user turned away from a job that had come into being: from a place in the queue, or from the
machines that fit. -/
structure TurnedDown (course : List Exchange) (offer : Offer) : Prop where
  offered : offer ∈ offersOf course
  hasJob : offer.jobUrl ≠ ""
  declined : (offer.status = .queued ∧ Declines course queueQuestion) ∨
    (offer.status.isMatch ∧ offer.machines ≠ [] ∧ Declines course launchQuestion)

section Reading

variable {course : List Exchange} {offer : Offer}

/-- Nobody is turned away from by a yes, or without a question. -/
theorem not_turnedDown (h : ∀ asked ∈ answersOf course, asked.2 = .ok true) :
    ¬ TurnedDown course offer := by
  rintro ⟨-, -, ⟨-, answer, ha, hno⟩ | ⟨-, -, answer, ha, hno⟩⟩
  · exact hno (h _ (answered_mem_iff.mp ha))
  · exact hno (h _ (answered_mem_iff.mp ha))

theorem declines_of_answersOf {question : String} {answer : Answer}
    (h : answersOf course = [(question, answer)]) (hno : answer ≠ .ok true) :
    Declines course question :=
  ⟨answer, answered_mem_iff.mpr (by simp [h]), hno⟩

/-- The offer of a declined question is turned down. -/
theorem turnedDown_of_declined {q : Question} {answer : Answer} (ho : offersOf course = [offer])
    (hq : offer.question? = some q) (ha : answersOf course = [(q.text, answer)])
    (hno : answer ≠ .ok true) : TurnedDown course offer := by
  have hd := declines_of_answersOf ha hno
  have hm : offer ∈ offersOf course := by simp [ho]
  cases q with
  | queue =>
      obtain ⟨hj, hs⟩ := Offer.question?_eq_queue_iff.mp hq
      exact ⟨hm, hj, Or.inl ⟨hs, hd⟩⟩
  | launch =>
      obtain ⟨hj, hs, hn⟩ := Offer.question?_eq_launch_iff.mp hq
      exact ⟨hm, hj, Or.inr ⟨hs, hn, hd⟩⟩

end Reading

/-- Nobody turned away from a job, and none was stopped. -/
structure Kept (course : List Exchange) : Prop where
  wanted : ∀ offer, ¬ TurnedDown course offer
  stops : (callsOf course).filter Call.isStop = []

theorem kept_of_agreed {course : List Exchange}
    (ha : ∀ asked ∈ answersOf course, asked.2 = .ok true)
    (hs : (callsOf course).filter Call.isStop = []) : Kept course := by
  constructor
  · intro offer
    exact not_turnedDown ha
  · exact hs

/-- Either the user turned away from a job, which was stopped then, or nothing was stopped. -/
theorem launched_stops {order : Order} {course : List Exchange} {r : Except LaunchError Unit}
    (h : Launched order course r) :
    (∃ offer front, (∀ other, TurnedDown course other ↔ other = offer) ∧
      front.filter Call.isStop = [] ∧ callsOf course = front ++ [.stop offer.jobId .falcon]) ∨
    Kept course := by
  cases h with
  | noFile hf => exact Or.inr (kept_of_agreed (by simp) rfl)
  | @scheduled file others hf first reply hs rest r h =>
      cases h with
      | unscheduled e =>
          apply Or.inr
          apply kept_of_agreed
          · simp [hs.answersOf_cons]
          · simp [hs.callsOf_cons]
      | unasked hq =>
          apply Or.inr
          apply kept_of_agreed
          · simp [hs.answersOf_cons]
          · simp [hs.callsOf_cons]
      | queued hq =>
          apply Or.inr
          apply kept_of_agreed
          · simp [hs.answersOf_cons]
          · simp [hs.callsOf_cons]
      | accepted hq hc =>
          apply Or.inr
          apply kept_of_agreed
          · simp [hs.answersOf_cons, hc.uneventful.answers]
          · simp [hs.callsOf_cons, hc.uneventful.stops]
      | @declined offer q hq answer hno reply =>
          refine Or.inl ⟨offer, [order.scheduling file], fun other => ?_, ?_, ?_⟩
          · constructor
            · intro ht
              simpa [hs.offersOf_cons, Except.toOption] using ht.offered
            · rintro rfl
              apply turnedDown_of_declined _ hq _ hno
              · simp [hs.offersOf_cons, Except.toOption]
              · simp [hs.answersOf_cons]
          · simp
          · simp [hs.callsOf_cons]

/-- The user is asked what the offer leads to, and nothing else. -/
theorem launched_questions {order : Order} {course : List Exchange} {r : Except LaunchError Unit}
    (h : Launched order course r) {offer : Offer} (ho : offer ∈ offersOf course) :
    (answersOf course).map Prod.fst = offer.question?.toList.map Question.text := by
  cases h with
  | noFile hf => simp at ho
  | @scheduled file others hf first reply hs rest r h =>
      rw [hs.offersOf_cons] at ho
      rw [hs.answersOf_cons]
      cases h with
      | unscheduled e => simp [Except.toOption] at ho
      | @unasked other hq =>
          obtain rfl : offer = other := by simpa [Except.toOption] using ho
          simp [hq]
      | @queued other hq =>
          obtain rfl : offer = other := by simpa [Except.toOption] using ho
          simp [hq]
      | @declined other q hq answer hno reply =>
          obtain rfl : offer = other := by simpa [Except.toOption] using ho
          simp [hq]
      | @accepted other hq rest hc =>
          obtain rfl : offer = other := by simpa [Except.toOption, hc.uneventful.offers] using ho
          simp [hq, hc.uneventful.answers]

/-- A launch stops a job exactly if the user turned away from it; then the order to stop it is given
once, and it is the last call of all. The user has this choice for every offer that leads to a
question. -/
theorem stop_called_iff_turnedDown (order : Order) (host : Host σ) (s : σ) :
    let course := (launch order).history host s
    let calls := Trace.calls ((launch order).run host s).trace
    ((∃ jobId platform, Call.stop jobId platform ∈ calls) ↔ ∃ offer, TurnedDown course offer) ∧
      (∀ offer, TurnedDown course offer →
        calls.filter Call.isStop = [.stop offer.jobId .falcon] ∧
          calls.getLast? = some (.stop offer.jobId .falcon)) ∧
      ∀ offer ∈ offersOf course,
        (answersOf course).map Prod.fst = offer.question?.toList.map Question.text := by
  intro course calls
  have hl : Launched order course _ := launched_run order host s
  have hcalls : calls = callsOf course := calls_run_trace host _ s
  rw [hcalls]
  rcases launched_stops hl with ⟨offer, front, ht, hf, hc⟩ | hkept
  · have hmem : .stop offer.jobId .falcon ∈ callsOf course := by
      rw [hc]
      exact List.mem_append_right front (List.mem_singleton_self _)
    refine ⟨?_, ?_, fun offer => launched_questions hl⟩
    · constructor
      · intro _
        exact ⟨offer, (ht offer).mpr rfl⟩
      · intro _
        exact ⟨offer.jobId, .falcon, hmem⟩
    · intro other h
      obtain rfl := (ht other).mp h
      rw [hc]
      constructor
      · rw [List.filter_append, hf]
        rfl
      · exact List.getLast?_concat
  · have hnone : ∀ jobId platform, Call.stop jobId platform ∉ callsOf course := by
      intro jobId platform hm
      exact absurd rfl (List.filter_eq_nil_iff.mp hkept.stops _ hm)
    refine ⟨?_, ?_, fun offer => launched_questions hl⟩
    · constructor
      · rintro ⟨jobId, platform, hm⟩
        exact absurd hm (hnone jobId platform)
      · rintro ⟨offer, h⟩
        exact absurd h (hkept.wanted offer)
    · intro offer h
      exact absurd h (hkept.wanted offer)

/-- A place in the queue that is turned down. -/
theorem stop_called_for_sample :
    let order : Order := ⟨["job.yaml"], none, none⟩
    let host := (Rehearsal.smooth (.sample .queued)).host
    (Trace.calls ((launch order).run host [.ok false]).trace).filter Call.isStop =
      [.stop "1024" .falcon] :=
  ((stop_called_iff_turnedDown ⟨["job.yaml"], none, none⟩
    (Rehearsal.smooth (.sample .queued)).host [.ok false]).2.1 (.sample .queued)
      { offered := List.mem_singleton.mpr rfl
        hasJob := by decide
        declined := Or.inl
          ⟨rfl, .ok false, answered_mem_iff.mpr (List.mem_singleton.mpr rfl), by simp⟩ }).1

end LaunchDesk
