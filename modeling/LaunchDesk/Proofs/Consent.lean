import LaunchDesk.Proofs.Launch
import LaunchDesk.Proofs.Tables

/-!
# No launch without consent

Nothing is launched that the user has not seen and said yes to: before the call that launches a job
come its offer, the table of exactly its machines, its address, and a yes to the question. A yes in
turn is never without effect, unless the launch is for a cluster and the offer names none.
-/

namespace LaunchDesk

open Program

variable {σ : Type}

/-- The calls that launch the job of an accepted offer. -/
def Order.launching (order : Order) (offer : Offer) : List Call :=
  match order.cluster with
  | none => [.start offer]
  | some _ => (offer.cluster?.map fun cluster => .confirmCluster cluster offer.machines).toList

/-- The user saw an offer, and said yes to it, before a call that launches its job. -/
structure Informed (order : Order) (course : List Exchange) (c : Call) (offer : Offer) : Prop where
  /-- There is one offer. -/
  offered : offersOf course = [offer]
  hasJob : offer.jobUrl ≠ ""
  isMatch : offer.status.isMatch
  machines : offer.machines ≠ []
  /-- The offer, the table of its machines, the address, the yes and the call come in this order. -/
  inOrder : ∃ first before table between behind reply after rest, first.offer? = some offer ∧
    TabulatesMachines offer.machines table ∧
    course = first :: saying before ++ .said ⟨.info, table⟩ ::
      saying between ++ .said ⟨.info, offer.jobUrl⟩ ::
      saying behind ++ .answered launchQuestion (.ok true) ::
      saying after ++ .served c reply :: rest
  /-- What is launched is what was shown. -/
  launched : (order.cluster = none ∧ c = .start offer) ∨
    (order.cluster ≠ none ∧ ∃ cluster, offer.clusterId = some cluster ∧ cluster ≠ "" ∧
      c = .confirmCluster cluster offer.machines)
  notStopped : ∀ jobId platform, Call.stop jobId platform ∉ callsOf course

section Launching

variable {order : Order} {offer : Offer} {course : List Exchange} {c : Call}

theorem Offer.cluster?_eq_some_iff {cluster : String} :
    offer.cluster? = some cluster ↔ offer.clusterId = some cluster ∧ cluster ≠ "" := by
  simp [Offer.cluster?, Option.filter_eq_some_iff]

theorem mem_launching_iff :
    c ∈ order.launching offer ↔ (order.cluster = none ∧ c = .start offer) ∨
      (order.cluster ≠ none ∧ ∃ cluster, offer.clusterId = some cluster ∧ cluster ≠ "" ∧
        c = .confirmCluster cluster offer.machines) := by
  unfold Order.launching
  cases order.cluster with
  | none => simp
  | some name =>
      simp only [Option.mem_toList, Option.map_eq_some_iff, Offer.cluster?_eq_some_iff]
      simp [and_assoc, eq_comm]

/-- What completes a launch starts with the call that launches the job, if there is one. -/
theorem Completed.launches (h : Completed order offer course) :
    (order.launching offer = [] ∧ callsOf course = []) ∨
    ∃ c reply rest, order.launching offer = [c] ∧ c.isLaunch ∧ course = .served c reply :: rest ∧
      (callsOf rest).filter Call.isLaunch = [] := by
  rcases h with ⟨ho, h⟩ | ⟨ho, h⟩
  · have hl : order.launching offer = [.start offer] := by simp [Order.launching, ho]
    refine Or.inr ⟨.start offer, ?_⟩
    cases h with
    | refused e => exact ⟨_, _, hl, rfl, rfl, by simp⟩
    | unstarted hu => exact ⟨_, _, hl, rfl, rfl, by simp⟩
    | listed hu reply => exact ⟨_, _, hl, rfl, rfl, by simp [Call.isLaunch]⟩
  · cases h with
    | unassigned hc => exact Or.inl ⟨by simp [Order.launching, ho, hc], by simp⟩
    | @confirmed cluster hc reply =>
        have hl : order.launching offer = [.confirmCluster cluster offer.machines] := by
          simp [Order.launching, ho, hc]
        exact Or.inr ⟨_, _, _, hl, rfl, rfl, by simp⟩

end Launching

/-- What is launched for an accepted offer was shown before. -/
theorem informed_of_accepted {order : Order} {file : String} {first : Exchange} {offer : Offer}
    {rest : List Exchange} {c : Call} (hs : Schedules order file first (.ok offer))
    (hq : offer.question? = some .launch) (hc : Completed order offer rest)
    (hl : c ∈ order.launching offer) :
    Informed order (first :: (saying (offer.opening file) ++ .answered launchQuestion (.ok true) ::
      (saying Question.launch.agreement ++ rest))) c offer := by
  obtain ⟨hj, hm, hn⟩ := Offer.question?_eq_launch_iff.mp hq
  obtain ⟨lines, ho⟩ := opening_of_shown file hq
  rcases hc.launches with ⟨hnone, -⟩ | ⟨d, reply, more, hd, -, rfl, -⟩
  · simp [hnone] at hl
  · obtain rfl : c = d := by simpa [hd] using hl
    refine
      { offered := ?_
        hasJob := hj
        isMatch := hm
        machines := hn
        inOrder := ?_
        launched := mem_launching_iff.mp hl
        notStopped := ?_ }
    · simp [hs.offersOf_cons, hc.uneventful.offers, Except.toOption]
    · -- Before the table stand what the status gives rise to and two lines of the display.
      refine ⟨first, lines ++ offer.display.take 2, machineTable offer.machines,
        (offer.display.drop 3).take 2, [], reply, Question.launch.agreement, more, hs.offer?_eq,
        tabulatesMachines_machineTable _, ?_⟩
      rw [ho]
      simp [Offer.display, saying]
    · intro jobId platform hstop
      have hkind : (Call.stop jobId platform).isStop = true := rfl
      refine absurd hkind (List.filter_eq_nil_iff.mp ?_ _ hstop)
      simpa [hs.callsOf_cons] using hc.uneventful.stops

/-- A launch in which a job is launched, or not; in the first case the user was asked. -/
theorem launched_cases {order : Order} {course : List Exchange} {r : Except LaunchError Unit}
    (h : Launched order course r) :
    (.answered launchQuestion (.ok true) ∉ course ∧ (callsOf course).filter Call.isLaunch = []) ∨
    ∃ offer, offersOf course = [offer] ∧
      (callsOf course).filter Call.isLaunch = order.launching offer ∧
      ∀ c ∈ order.launching offer, Informed order course c offer := by
  cases h with
  | noFile hf => exact Or.inl ⟨by simp, rfl⟩
  | @scheduled file others hf first reply hs rest r h =>
      simp only [answered_mem_iff, hs.answersOf_cons, hs.callsOf_cons, hs.offersOf_cons]
      cases h with
      | unscheduled e => exact Or.inl ⟨by simp, by simp⟩
      | unasked hq => exact Or.inl ⟨by simp, by simp⟩
      | queued hq => exact Or.inl ⟨by simp [launchQuestion_ne_queueQuestion], by simp⟩
      | declined hq hno reply => exact Or.inl ⟨by simp [Ne.symm hno], by simp⟩
      | @accepted offer hq rest hc =>
          refine Or.inr ⟨offer, ?_, ?_, fun c hl => informed_of_accepted hs hq hc hl⟩
          · simp [hc.uneventful.offers, Except.toOption]
          · rcases hc.launches with ⟨hnone, hcalls⟩ | ⟨c, reply, more, hl, hlaunch, rfl, hmore⟩
            · simp [hnone, hcalls]
            · simp [hl, hlaunch, hmore]

/-- A call that launches a job comes only behind a yes to what was shown of its offer, and a yes has
the call that the order and the offer ask for, and no other. -/
theorem launch_called_with_consent (order : Order) (host : Host σ) (s : σ) :
    let course := (launch order).history host s
    let calls := Trace.calls ((launch order).run host s).trace
    (∀ c ∈ calls, c.isLaunch → ∃ offer, Informed order course c offer) ∧
      ∀ offer ∈ offersOf course, .answered launchQuestion (.ok true) ∈ course →
        calls.filter Call.isLaunch = order.launching offer := by
  intro course calls
  have hcalls : calls = callsOf course := calls_run_trace host _ s
  rw [hcalls]
  rcases launched_cases (launched_run order host s) with ⟨hno, hl⟩ | ⟨offer, ho, hl, hi⟩
  · constructor
    · intro c hc hlaunch
      exact absurd hlaunch (List.filter_eq_nil_iff.mp hl c hc)
    · intro offer _ hyes
      exact absurd hyes hno
  · constructor
    · intro c hc hlaunch
      have hm : c ∈ order.launching offer := hl ▸ List.mem_filter.mpr ⟨hc, hlaunch⟩
      exact ⟨offer, hi c hm⟩
    · intro other hother _
      obtain rfl : other = offer := List.mem_singleton.mp (ho ▸ hother)
      exact hl

/-- An offer that is accepted. -/
theorem launch_called_for_sample :
    let order : Order := ⟨["job.yaml"], none, none⟩
    let host := (Rehearsal.smooth (.sample .submitted)).host
    .start (.sample .submitted) ∈ Trace.calls ((launch order).run host [.ok true]).trace ∧
      ∃ offer, Informed order ((launch order).history host [.ok true]) (.start (.sample .submitted))
        offer := by
  intro order host
  have hc : .start (.sample .submitted) ∈ Trace.calls ((launch order).run host [.ok true]).trace :=
    List.mem_cons_of_mem _ List.mem_cons_self
  exact ⟨hc, (launch_called_with_consent order host [.ok true]).1 _ hc rfl⟩

end LaunchDesk
