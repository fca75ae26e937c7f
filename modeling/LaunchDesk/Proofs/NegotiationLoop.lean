import LaunchDesk.Proofs.Negotiation
import Mathlib.Data.List.Chain

/-!
# Negotiations state by state

A negotiation is a loop over four states. A turn of the loop leads from a state to a later one, or
out of the last one, so there are four turns at most. The loop is the negotiation: it does the same
on every host, event by event, and has the same result.

## Implementation notes

What a turn comes to carries the proof that its state follows the one before; the loop ends by this
order and needs no other bound. An answer that could not be read is kept until the loop is left. It
is kept only in the last state and only for an outcome that stops the job, which is an invariant of
the turns.
-/

namespace LaunchDesk

namespace Negotiating

/-- Where a negotiation stands. -/
inductive State where
  /-- The offer has not been read. -/
  | interpreting
  /-- The offer is worth showing. -/
  | presenting
  /-- So many machines have been shown, and the question about them is open. -/
  | awaiting (shown : Nat)
  /-- There is an outcome. -/
  | ended (outcome : Outcome)

/-- The state of a negotiation and the answer that could not be read, if there is one. -/
structure Progress where
  /-- The state. -/
  state : State
  /-- The failure to read an answer. -/
  unread : Option AnswerError

/-- A negotiation that begins. -/
def Progress.start : Progress :=
  ⟨.interpreting, none⟩

/-- A state comes right behind another one. -/
inductive State.Follows : State → State → Prop
  | matched : Follows .interpreting .presenting
  | settled (outcome : Outcome) : Follows .interpreting (.ended outcome)
  | shown (n : Nat) : Follows .presenting (.awaiting n)
  | unmatched : Follows .presenting (.ended .noMachines)
  | decided (n : Nat) (outcome : Outcome) : Follows (.awaiting n) (.ended outcome)

/-- The number of states that can come behind one. -/
def State.toCome : State → Nat
  | interpreting => 3
  | presenting => 2
  | awaiting _ => 1
  | ended _ => 0

theorem State.Follows.toCome_lt {s t : State} (h : s.Follows t) : t.toCome < s.toCome := by
  cases h <;> simp [toCome]

theorem State.not_follows_ended {outcome : Outcome} {t : State} :
    ¬ (State.ended outcome).Follows t :=
  nofun

/-- The state behind the reading of an offer. -/
def State.interpreted : Verdict → State
  | .matched => presenting
  | .queued => ended .queued
  | .queueDeclined => ended .queueDeclined
  | .noJob => ended .noJob
  | .cardMissing => ended .cardMissing
  | .cardUnknown => ended .cardUnknown

theorem State.follows_interpreted (verdict : Verdict) :
    State.interpreting.Follows (.interpreted verdict) := by
  cases verdict <;> constructor

/-- What a turn comes to. -/
inductive Turn (p : Progress) where
  /-- A later state. -/
  | goOn (next : Progress) (follows : p.state.Follows next.state)
  /-- The result of the negotiation. -/
  | finish (result : Except AnswerError Outcome)

/-- One turn of the loop. -/
def turn (offer : Offer) (file : String) : (p : Progress) → Program (Turn p)
  | ⟨.interpreting, unread⟩ => do
      match ← interpret offer file with
      | .ok verdict =>
          return .goOn ⟨.interpreted verdict, unread⟩ (State.follows_interpreted verdict)
      | .error e =>
          log .warn .negotiation ("No answer to the queue question for job " ++ offer.jobId ++
            ": " ++ e.detail)
          return .goOn ⟨.ended .queueDeclined, some e⟩ (.settled _)
  | ⟨.presenting, unread⟩ => do
      match ← present offer with
      | some shown => return .goOn ⟨.awaiting shown, unread⟩ (.shown shown)
      | none =>
          log .warn .negotiation ("Job " ++ offer.jobId ++ " was matched without any resources")
          return .goOn ⟨.ended .noMachines, unread⟩ .unmatched
  | ⟨.awaiting shown, unread⟩ => do
      let decision ← askForLaunch offer shown
      return .goOn ⟨.ended decision.outcome, decision.unread <|> unread⟩ (.decided shown _)
  | ⟨.ended outcome, unread⟩ => do
      return .finish (← settle offer ⟨outcome, unread⟩)

/-- The loop from some state on. -/
def loop (offer : Offer) (file : String) (p : Progress) : Program (Except AnswerError Outcome) :=
  (turn offer file p).bind fun
    | .goOn next _ => loop offer file next
    | .finish result => .done result
  termination_by p.state.toCome
  decreasing_by exact State.Follows.toCome_lt ‹_›

section Loop

variable {offer : Offer} {file : String}

/-- Behind an outcome there is one turn. -/
theorem loop_ended (outcome : Outcome) (unread : Option AnswerError) :
    loop offer file ⟨.ended outcome, unread⟩ = settle offer ⟨outcome, unread⟩ := by
  rw [loop, turn, Program.bind_eq, Program.bind_assoc]
  exact Program.bind_done _

theorem loop_awaiting (shown : Nat) : loop offer file ⟨.awaiting shown, none⟩ =
    (askForLaunch offer shown).bind (settle offer) := by
  rw [loop, turn, Program.bind_eq, Program.bind_assoc]
  congr 1
  funext decision
  simp [loop_ended]

theorem loop_presenting : loop offer file ⟨.presenting, none⟩ =
    (decideOnMachines offer).bind (settle offer) := by
  rw [loop, turn, decideOnMachines]
  simp only [Program.bind_eq, Program.bind_assoc]
  congr 1
  funext shown
  cases shown with
  | none => simp [log, loop_ended, Decision.of]
  | some n => simp [loop_awaiting]

/-- The loop is the negotiation. -/
theorem loop_start : loop offer file .start = negotiate offer file := by
  rw [negotiate, decideOn, Progress.start, loop, turn]
  simp only [Program.bind_eq, Program.bind_assoc]
  congr 1
  funext verdict
  cases verdict with
  | error e => simp [log, loop_ended]
  | ok verdict =>
      cases verdict with
      | matched => simp [State.interpreted, loop_presenting]
      | _ => simp [State.interpreted, loop_ended, Decision.of]

end Loop

section Turns

variable {σ : Type} {host : Host σ} {offer : Offer} {file : String} {p q : Progress} {s : σ}
variable {through : List Progress} {run : Run σ (Except AnswerError Outcome)}

/-- An answer about the machines that cannot be read is a no. -/
theorem unread_askForLaunch (host : Host σ) (offer : Offer) (n : Nat) (s : σ) :
    ((askForLaunch offer n).run host s).result.unread = none ∨
      ((askForLaunch offer n).run host s).result.outcome.cancels = true := by
  cases hanswer : (host.answer launchQuestion s).1 with
  | ok yes => cases yes <;> simp [askForLaunch, ask, hanswer, info, log, reject, Decision.of]
  | error e =>
      right
      simp only [askForLaunch, ask, Program.bind_eq, Program.ask_bind, Program.run_ask, hanswer]
      rfl

theorem result_settle (host : Host σ) (offer : Offer) (d : Decision) (s : σ) :
    ((settle offer d).run host s).result = d.result := by
  obtain ⟨outcome, unread⟩ := d
  rw [settle]
  cases unread with
  | none => split_ifs <;> simp [Program.run_bind, log, Decision.result]
  | some e => split_ifs <;> simp [Program.run_bind, log, Decision.result]

/-- All that a turn can come to: the result of what has been kept, or a state that follows, with
nothing new to keep unless the job is to be stopped. -/
theorem turn_cases (host : Host σ) (offer : Offer) (file : String) (p : Progress) (s : σ) :
    (∃ outcome, p.state = .ended outcome ∧
      ((turn offer file p).run host s).result = .finish (Decision.result ⟨outcome, p.unread⟩)) ∨
    ∃ q follows, ((turn offer file p).run host s).result = .goOn q follows ∧
      (q.unread = p.unread ∨ ∃ outcome, q.state = .ended outcome ∧ outcome.cancels = true) := by
  obtain ⟨state, unread⟩ := p
  cases state with
  | interpreting =>
      right
      rw [turn, Program.bind_eq, Program.run_bind]
      cases ((interpret offer file).run host s).result with
      | ok verdict => exact ⟨_, _, rfl, Or.inl rfl⟩
      | error e => exact ⟨_, _, rfl, Or.inr ⟨.queueDeclined, rfl, rfl⟩⟩
  | presenting =>
      right
      rw [turn, Program.bind_eq, Program.run_bind]
      cases ((present offer).run host s).result with
      | none => exact ⟨_, _, rfl, Or.inl rfl⟩
      | some n => exact ⟨_, _, rfl, Or.inl rfl⟩
  | awaiting n =>
      right
      rw [turn, Program.bind_eq, Program.run_bind]
      refine ⟨_, _, rfl, (unread_askForLaunch host offer n s).imp (fun hnone => ?_) fun h => ?_⟩
      · simp [hnone]
      · exact ⟨_, rfl, h⟩
  | ended outcome =>
      left
      rw [turn, Program.bind_eq, Program.run_bind]
      refine ⟨outcome, rfl, ?_⟩
      rw [← result_settle host offer ⟨outcome, unread⟩ s]
      rfl

/-- The turns of the loop on a host from some state on: what it goes through, and the run. -/
inductive Turns (host : Host σ) (offer : Offer) (file : String) :
    Progress → σ → List Progress → Run σ (Except AnswerError Outcome) → Prop
  | goOn {p q : Progress} {s : σ} {follows : p.state.Follows q.state} {through : List Progress}
      {run : Run σ (Except AnswerError Outcome)}
      (first : ((turn offer file p).run host s).result = .goOn q follows)
      (rest : Turns host offer file q ((turn offer file p).run host s).state through run) :
      Turns host offer file p s (p :: through) (run.after ((turn offer file p).run host s).trace)
  | finish {p : Progress} {s : σ} {result : Except AnswerError Outcome}
      (last : ((turn offer file p).run host s).result = .finish result) :
      Turns host offer file p s [p]
        ⟨result, ((turn offer file p).run host s).trace, ((turn offer file p).run host s).state⟩

/-- The loop has turns from every state on. -/
theorem exists_turns (host : Host σ) (offer : Offer) (file : String) (p : Progress) (s : σ) :
    ∃ through, Turns host offer file p s through ((loop offer file p).run host s) := by
  induction p using loop.induct generalizing s with
  | case1 p ih =>
      rw [loop, Program.run_bind]
      cases h : ((turn offer file p).run host s).result with
      | goOn q follows =>
          obtain ⟨through, hrest⟩ := ih q follows ((turn offer file p).run host s).state
          exact ⟨p :: through, .goOn h hrest⟩
      | finish result => exact ⟨[p], by simpa [Run.after] using Turns.finish h⟩

/-- They are the run of the loop. -/
theorem Turns.run_eq (h : Turns host offer file p s through run) :
    run = (loop offer file p).run host s := by
  induction h with
  | goOn first rest ih => rw [loop, Program.run_bind, first, ih]
  | finish last =>
      rw [loop, Program.run_bind, last]
      simp [Run.after]

theorem Turns.head?_eq (h : Turns host offer file p s through run) : through.head? = some p := by
  cases h <;> rfl

/-- Each state follows the one before. -/
theorem Turns.isChain (h : Turns host offer file p s through run) :
    (through.map Progress.state).IsChain State.Follows := by
  induction h with
  | @goOn p q s follows through run first rest ih =>
      refine List.isChain_cons.mpr ⟨fun next hnext => ?_, ih⟩
      rw [List.head?_map, rest.head?_eq] at hnext
      exact Option.some.inj hnext ▸ follows
  | finish last => exact List.isChain_singleton _

theorem Turns.length_le (h : Turns host offer file p s through run) :
    through.length ≤ p.state.toCome + 1 := by
  induction h with
  | @goOn p q s follows through run first rest ih =>
      have hlt : q.state.toCome < p.state.toCome := follows.toCome_lt
      rw [List.length_cons]
      omega
  | finish last => simp

/-- An unread answer is kept only for an outcome that stops the job. -/
def Progress.Sound (p : Progress) : Prop :=
  p.unread ≠ none → ∃ outcome, p.state = .ended outcome ∧ outcome.cancels = true

theorem sound_start : Progress.start.Sound :=
  fun h => absurd rfl h

/-- A turn keeps it so. -/
theorem sound_turn {follows : p.state.Follows q.state} (hp : p.Sound)
    (h : ((turn offer file p).run host s).result = .goOn q follows) : q.Sound := by
  obtain ⟨outcome, -, hend⟩ | ⟨q', follows', hgoOn, hkept⟩ := turn_cases host offer file p s
  · cases h.symm.trans hend
  · cases h.symm.trans hgoOn
    rcases hkept with hsame | hnew
    · intro hne
      obtain ⟨outcome, hstate, -⟩ := hp (hsame ▸ hne)
      exact absurd follows (hstate ▸ State.not_follows_ended)
    · exact fun _ => hnew

/-- All turns keep it so. -/
theorem Turns.sound (h : Turns host offer file p s through run) (hp : p.Sound) :
    ∀ q ∈ through, q.Sound := by
  induction h with
  | @goOn p q s follows through run first rest ih =>
      exact List.forall_mem_cons.mpr ⟨hp, ih (sound_turn hp first)⟩
  | finish last => simpa using hp

/-- What has been kept is the result. -/
theorem Turns.ends (h : Turns host offer file p s through run) : ∃ outcome unread,
    through.getLast? = some ⟨.ended outcome, unread⟩ ∧
      run.result = Decision.result ⟨outcome, unread⟩ := by
  induction h with
  | @goOn p q s follows through run first rest ih =>
      obtain ⟨outcome, unread, hlast, hresult⟩ := ih
      exact ⟨outcome, unread, by rw [List.getLast?_cons, hlast]; rfl, hresult⟩
  | @finish p s result last =>
      obtain ⟨outcome, hstate, hend⟩ | ⟨q, follows, hgoOn, -⟩ := turn_cases host offer file p s
      · cases last.symm.trans hend
        exact ⟨outcome, p.unread, by rw [← hstate]; rfl, rfl⟩
      · cases last.symm.trans hgoOn

end Turns

/-- Exactly the run of a negotiation is made of turns. -/
theorem turns_start_iff {σ : Type} {host : Host σ} {offer : Offer} {file : String} {s : σ}
    {run : Run σ (Except AnswerError Outcome)} :
    (∃ through, Turns host offer file .start s through run) ↔
      run = (negotiate offer file).run host s := by
  rw [← loop_start]
  constructor
  · rintro ⟨through, hturns⟩
    exact hturns.run_eq
  · rintro rfl
    exact exists_turns host offer file .start s

/-- On every host a negotiation goes through states of which each follows the one before, four at
most, and ends with what is kept in the last one: an outcome, or behind it an answer that could not
be read, and then the job is stopped. -/
theorem negotiate_goes_through_states {σ : Type} (host : Host σ) (offer : Offer) (file : String)
    (s : σ) : ∃ (through : List Progress) (outcome : Outcome) (unread : Option AnswerError),
      Turns host offer file .start s through ((negotiate offer file).run host s) ∧
      (through.map Progress.state).IsChain State.Follows ∧ through.length ≤ 4 ∧
      through.getLast? = some ⟨.ended outcome, unread⟩ ∧
      ((negotiate offer file).run host s).result = Decision.result ⟨outcome, unread⟩ ∧
      (unread ≠ none → outcome.cancels = true) := by
  obtain ⟨through, hturns⟩ := turns_start_iff.mpr (rfl : _ = (negotiate offer file).run host s)
  obtain ⟨outcome, unread, hlast, hresult⟩ := hturns.ends
  refine ⟨through, outcome, unread, hturns, hturns.isChain, hturns.length_le, hlast, hresult, ?_⟩
  intro hne
  obtain ⟨_, hstate, hcancels⟩ :=
    hturns.sound sound_start _ (List.mem_of_getLast? hlast) hne
  cases hstate
  exact hcancels

end Negotiating

end LaunchDesk
