import LaunchDesk.Proofs.Launch
import LaunchDesk.Rehearsal

/-!
# Jobs that cannot be scheduled

A schedule call that fails is told to the user once, with at most one hint at what can be done, and
ends the launch in good order: nothing else is called, and nothing is asked.

## Implementation notes

Which statuses count as the platform's own fault is left open in what the user is told, since two
readings of it are compared: every status from 500 on, and those up to 599 alone. They differ on the
statuses from 600 on, and nowhere else.
-/

namespace LaunchDesk

open Decimal Program

namespace CallError

/-- The platform refused with a status. -/
def RefusedWith (e : CallError) (status : Nat) : Prop :=
  ∃ message, e = .refused status message

/-- The file that defines the job cannot be read. -/
def OfFile (e : CallError) : Prop :=
  ∃ path reason, e = .jobFile path reason

/-- The platform did not accept the key. -/
def OfKey (e : CallError) : Prop :=
  e.RefusedWith 401 ∨ e.RefusedWith 403

/-- The platform is at fault, if the statuses say so that are its own fault. -/
def OfPlatform (faults : Nat → Prop) (e : CallError) : Prop :=
  ∃ status, faults status ∧ e.RefusedWith status

@[simp] theorem refusedWith_refused {status other : Nat} {message : String} :
    (refused status message).RefusedWith other ↔ status = other := by
  simp [RefusedWith]

end CallError

/-- The hint at the key. -/
def keyHint : Line :=
  ⟨.warn, "Please check your API key (--api_key or FALCON_API_KEY)."⟩

/-- The hint at the platform. -/
def platformHint : Line :=
  ⟨.warn, "The platform is unavailable right now. Please try again later."⟩

/-- The hints that an error deserves: at most one, at the key or at the platform. -/
structure Hinted (faults : Nat → Prop) (e : CallError) (hints : List Line) : Prop where
  key : hints = [keyHint] ↔ e.OfKey
  platform : hints = [platformHint] ↔ e.OfPlatform faults
  none : hints = [] ↔ ¬ e.OfKey ∧ ¬ e.OfPlatform faults

/-- What the user is told of a schedule call that failed. -/
structure Told (faults : Nat → Prop) (e : CallError) (lines : List Line) : Prop where
  /-- Of a file, what is wrong with it and nothing else. -/
  file : e.OfFile → lines = [⟨.error, "Failed to launch the job: " ++ e.message⟩]
  /-- Of anything else, to look at the network, what is wrong, and what can be done about it. -/
  other : ¬ e.OfFile → ∃ hints, Hinted faults e hints ∧
    lines = [⟨.error, "Failed to launch the job. Please check if the network is available."⟩,
      ⟨.error, e.launchMessage⟩] ++ hints

/-- The statuses that are told as the platform's own fault. -/
def From500 (status : Nat) : Prop :=
  500 ≤ status

/-- The statuses of three digits of which the first is a five. -/
def Within500 (status : Nat) : Prop :=
  500 ≤ status ∧ status ≤ 599

section Telling

variable {e : CallError}

theorem said_reportHint_refused (status : Nat) (message : String) :
    (reportHint (.refused status message)).said =
      if status = 401 ∨ status = 403 then [keyHint]
      else if 500 ≤ status then [platformHint] else [] := by
  simp only [reportHint, CallError.unauthorized, CallError.serverError, Bool.or_eq_true, beq_iff_eq,
    decide_eq_true_eq]
  split_ifs <;> rfl

/-- What is said on any error but one of the file. -/
theorem said_reportUnscheduled (h : ¬ e.OfFile) :
    (reportUnscheduled e).said =
      [⟨.error, "Failed to launch the job. Please check if the network is available."⟩,
        ⟨.error, e.launchMessage⟩] ++ (reportHint e).said := by
  cases e with
  | jobFile path reason => exact absurd ⟨path, reason, rfl⟩ h
  | requestFailed fault => rfl
  | refused status message => rfl
  | badReply message => rfl

/-- A status is hinted at as the key's or the platform's fault, never as both. -/
theorem hinted_refused {faults : Nat → Prop} {status : Nat} (message : String)
    (h : faults status ↔ 500 ≤ status) :
    Hinted faults (.refused status message) (reportHint (.refused status message)).said := by
  rw [said_reportHint_refused]
  by_cases hkey : status = 401 ∨ status = 403
  · have hlow : ¬ 500 ≤ status := by omega
    rw [if_pos hkey]
    constructor <;>
      simp [CallError.OfKey, CallError.OfPlatform, h, hkey, hlow, keyHint, platformHint]
  · by_cases hhigh : 500 ≤ status
    · rw [if_neg hkey, if_pos hhigh]
      constructor <;>
        simp [CallError.OfKey, CallError.OfPlatform, h, hkey, hhigh, keyHint, platformHint]
    · rw [if_neg hkey, if_neg hhigh]
      constructor <;> simp [CallError.OfKey, CallError.OfPlatform, h, hkey, hhigh]

theorem hinted_of_not_refused {faults : Nat → Prop} (h : ∀ status, ¬ e.RefusedWith status) :
    Hinted faults e (reportHint e).said := by
  have hsaid : (reportHint e).said = [] := by
    cases e with
    | refused status message => exact absurd ⟨message, rfl⟩ (h status)
    | _ => rfl
  rw [hsaid]
  constructor <;> simp [CallError.OfKey, CallError.OfPlatform, h]

/-- An error is told with the hint at the platform for every status from 500 on. -/
theorem told_reportUnscheduled (e : CallError) : Told From500 e (reportUnscheduled e).said := by
  constructor
  · rintro ⟨path, reason, rfl⟩
    rfl
  · intro hfile
    refine ⟨(reportHint e).said, ?_, said_reportUnscheduled hfile⟩
    cases e with
    | refused status message => exact hinted_refused message Iff.rfl
    | _ => exact hinted_of_not_refused (by simp [CallError.RefusedWith])

/-- What is told settles which hint was given. -/
theorem Told.hinted {faults : Nat → Prop} (h : Told faults e (reportUnscheduled e).said)
    (hfile : ¬ e.OfFile) : Hinted faults e (reportHint e).said := by
  obtain ⟨hints, hhints, hlines⟩ := h.other hfile
  rw [said_reportUnscheduled hfile] at hlines
  rwa [List.append_cancel_left hlines]

/-- Only a status from 600 on is told as a fault that it does not name. -/
theorem told_within500_iff :
    Told Within500 e (reportUnscheduled e).said ↔
      ∀ status, e.RefusedWith status → status < 600 := by
  constructor
  · rintro h status ⟨message, rfl⟩
    have hfile : ¬ (CallError.refused status message).OfFile := by simp [CallError.OfFile]
    refine Nat.lt_of_not_le fun hhigh => ?_
    have hhint : (reportHint (.refused status message)).said = [platformHint] := by
      rw [said_reportHint_refused, if_neg (by omega), if_pos (by omega)]
    obtain ⟨other, hwithin, hrefused⟩ := (h.hinted hfile).platform.mp hhint
    obtain rfl := CallError.refusedWith_refused.mp hrefused
    have hle := hwithin.2
    omega
  · intro hlow
    constructor
    · exact (told_reportUnscheduled e).file
    · intro hfile
      refine ⟨(reportHint e).said, ?_, said_reportUnscheduled hfile⟩
      cases e with
      | refused status message =>
          have hlt := hlow status ⟨message, rfl⟩
          exact hinted_refused message ⟨And.left, fun h => ⟨h, by omega⟩⟩
      | _ => exact hinted_of_not_refused (by simp [CallError.RefusedWith])

end Telling

section Launches

variable {σ : Type} {order : Order} {file : String} {others : List String}

/-- A launch starts with its schedule call; if the call fails, this is told and nothing else is
done. -/
theorem launch_schedules (hf : order.files = file :: others) :
    ∃ next, (launch order).LeadsTo [] (.call (order.scheduling file) next) ∧
      ∀ e, (next (.error e)).LeadsTo (reportUnscheduled e).said (.done (.ok ())) := by
  have hl := launch_of_files hf
  unfold Order.scheduling
  cases hc : order.cluster with
  | none =>
      rw [hc] at hl
      exact ⟨fun reply => proceed file startJob reply, hl, proceed_unscheduled⟩
  | some name =>
      rw [hc] at hl
      exact ⟨fun reply => proceed file startOnCluster reply, hl, proceed_unscheduled⟩

theorem launch_takes_unscheduled (hf : order.files = file :: others) {host : Host σ} {s : σ}
    {e : CallError} (he : (host.serve (order.scheduling file) s).result = .error e) :
    Takes host (launch order) s
      (.served (order.scheduling file) (.error e) :: saying (reportUnscheduled e).said) (.ok ())
      (host.serve (order.scheduling file) s).state := by
  obtain ⟨next, hl, hn⟩ := launch_schedules hf
  rw [← he]
  apply hl.takes
  apply Takes.call
  rw [he]
  exact (hn e).takes_done host _

/-- A launch whose schedule call fails makes no other call, asks nothing and ends well, and what the
user sees is what is to be told of the error, once. The platform is said to be at fault for every
status from 500 on; so this is said of the statuses up to 599 alone if the platform refused with no
status beyond them, and only then. -/
theorem unscheduled_told (order : Order) (hf : order.files = file :: others) (host : Host σ) (s : σ)
    (e : CallError) (he : (host.serve (order.scheduling file) s).result = .error e) :
    let run := (launch order).run host s
    run.result = .ok () ∧ Trace.calls run.trace = [order.scheduling file] ∧
      Trace.questions run.trace = [] ∧
      (∃ lines, Trace.acts run.trace = .called (order.scheduling file) :: lines.map .said ∧
        Told From500 e lines ∧
        (Told Within500 e lines ↔ ∀ status, e.RefusedWith status → status < 600)) ∧
      ∀ status message, e = .refused status message →
        e.launchMessage = "Platform call failed: " ++
          ("API error (status " ++ natText status ++ "): " ++ message) := by
  intro run
  have htakes := launch_takes_unscheduled hf he
  refine ⟨htakes.result, ?_, ?_, ⟨(reportUnscheduled e).said, ?_, told_reportUnscheduled e,
    told_within500_iff⟩, ?_⟩
  · rw [htakes.calls_eq]
    simp
  · rw [htakes.questions_eq]
    simp
  · rw [htakes.acts_eq]
    simp [saying, Exchange.event]
  · rintro status message rfl
    rfl

/-- A key that is not accepted, in a launch on a cluster without a name. -/
theorem unscheduled_told_for_sample :
    let order : Order := ⟨["job.yaml", "other.yaml"], some "", none⟩
    let host := { Rehearsal.silent with schedule := .error (.refused 403 "forbidden") }.host
    let run := (launch order).run host []
    run.result = .ok () ∧ Trace.calls run.trace = [.scheduleOnCluster "job.yaml" ""] ∧
      ∃ lines, Told Within500 (.refused 403 "forbidden") lines ∧
        Trace.acts run.trace = .called (.scheduleOnCluster "job.yaml" "") :: lines.map .said := by
  intro order host run
  obtain ⟨hresult, hcalls, -, ⟨lines, hacts, -, hwithin⟩, -⟩ :=
    unscheduled_told order rfl host [] (.refused 403 "forbidden") rfl
  refine ⟨hresult, hcalls, lines, hwithin.mpr fun status h => ?_, hacts⟩
  obtain rfl := CallError.refusedWith_refused.mp h
  decide

/-- A status from 600 on is told as the platform's own fault, though it does not say so. -/
theorem not_told_within500_for_600 :
    let host := { Rehearsal.silent with schedule := .error (.refused 600 "odd") }.host
    let run := (launch ⟨["job.yaml"], none, none⟩).run host []
    Trace.lines run.trace =
      [⟨.error, "Failed to launch the job. Please check if the network is available."⟩,
        ⟨.error, "Platform call failed: API error (status 600): odd"⟩, platformHint] ∧
      ¬ Told Within500 (.refused 600 "odd") (Trace.lines run.trace) := by
  intro host run
  have hlines : Trace.lines run.trace =
      (reportUnscheduled (.refused 600 "odd")).said := by decide +kernel
  rw [hlines, told_within500_iff]
  refine ⟨by decide +kernel, fun h => ?_⟩
  have hlt : 600 < 600 := h 600 (CallError.refusedWith_refused.mpr rfl)
  omega

end Launches

end LaunchDesk
