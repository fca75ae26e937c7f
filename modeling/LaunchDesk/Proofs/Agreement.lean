import LaunchDesk.Proofs.Course

/-!
# Programs that agree but for the log

Two programs agree when no host can tell them apart by what they say, ask and call: whatever the
host answers, they go on in the same way. They may log different things, and their results may
differ in a way that is stated beside them.

## Implementation notes

A host cannot answer a log entry, so either side may log at any point. This leaves the two programs
free to log in different places, with no need to match one entry to another.
-/

namespace LaunchDesk

namespace Trace

/-- What happened in a run, without the log. -/
def unlogged (trace : List Event) : List Event :=
  trace.filter fun
    | .logged _ => false
    | _ => true

@[simp] theorem unlogged_append (s t : List Event) :
    unlogged (s ++ t) = unlogged s ++ unlogged t :=
  List.filter_append s t

@[simp] theorem unlogged_logged (entry : LogEntry) (t : List Event) :
    unlogged (.logged entry :: t) = unlogged t := rfl

end Trace

/-- Two runs did the same but for the log, and left their host in the same state. -/
structure Run.Alike {σ α β : Type} (a : Run σ α) (b : Run σ β) : Prop where
  trace : Trace.unlogged a.trace = Trace.unlogged b.trace
  state : a.state = b.state

namespace Run.Alike

variable {σ α β : Type} {a : Run σ α} {b : Run σ β}

theorem after (h : a.Alike b) (events : List Event) : (a.after events).Alike (b.after events) :=
  ⟨by simp [h.trace], h.state⟩

theorem log_left (h : a.Alike b) (entry : LogEntry) : (a.after [.logged entry]).Alike b :=
  ⟨by simp [h.trace], h.state⟩

theorem log_right (h : a.Alike b) (entry : LogEntry) : a.Alike (b.after [.logged entry]) :=
  ⟨by simp [h.trace], h.state⟩

end Run.Alike

namespace Program

variable {σ α β γ δ : Type}

/-- Two programs do the same but for the log, and end on related results. -/
inductive Agree (R : α → β → Prop) : Program α → Program β → Prop
  | done {a b} (h : R a b) : Agree R (.done a) (.done b)
  | say {line p q} (tail : Agree R p q) : Agree R (.say line p) (.say line q)
  | ask {question p q} (tail : ∀ answer, Agree R (p answer) (q answer)) :
      Agree R (.ask question p) (.ask question q)
  | call {c p q} (tail : ∀ reply, Agree R (p reply) (q reply)) : Agree R (.call c p) (.call c q)
  | logLeft {entry p q} (tail : Agree R p q) : Agree R (.log entry p) q
  | logRight {entry p q} (tail : Agree R p q) : Agree R p (.log entry q)

namespace Agree

variable {R : α → β → Prop} {S : γ → δ → Prop} {p : Program α} {q : Program β}

/-- On a host of any kind, programs that agree have runs that are alike. -/
theorem run (h : Agree R p q) (host : Host σ) (s : σ) :
    (p.run host s).Alike (q.run host s) ∧ R (p.run host s).result (q.run host s).result := by
  induction h generalizing s with
  | done h => exact ⟨⟨rfl, rfl⟩, h⟩
  | say tail ih =>
      obtain ⟨hr, hR⟩ := ih s
      exact ⟨hr.after _, hR⟩
  | ask tail ih =>
      obtain ⟨hr, hR⟩ := ih _ _
      exact ⟨hr.after _, hR⟩
  | call tail ih =>
      obtain ⟨hr, hR⟩ := ih _ _
      exact ⟨hr.after _, hR⟩
  | logLeft tail ih =>
      obtain ⟨hr, hR⟩ := ih s
      exact ⟨hr.log_left _, hR⟩
  | logRight tail ih =>
      obtain ⟨hr, hR⟩ := ih s
      exact ⟨hr.log_right _, hR⟩

/-- A program agrees with itself. -/
theorem refl (p : Program α) : Agree Eq p p := by
  induction p with
  | done a => exact .done rfl
  | say line next ih => exact .say ih
  | log entry next ih => exact .logLeft (.logRight ih)
  | ask question next ih => exact .ask ih
  | call c next ih => exact .call ih

/-- Programs that agree still agree when related results go on to programs that agree. -/
theorem bind (h : Agree R p q) {f : α → Program γ} {g : β → Program δ}
    (hf : ∀ a b, R a b → Agree S (f a) (g b)) : Agree S (p.bind f) (q.bind g) := by
  induction h with
  | done h => exact hf _ _ h
  | say tail ih => exact .say ih
  | ask tail ih => exact .ask ih
  | call tail ih => exact .call ih
  | logLeft tail ih => exact .logLeft ih
  | logRight tail ih => exact .logRight ih

end Agree

/-- Programs that say the same lines agree if what follows the lines does. -/
theorem LeadsTo.agree {R : α → β → Prop} {p p' : Program α} {q q' : Program β} {lines : List Line}
    (hp : p.LeadsTo lines p') (hq : q.LeadsTo lines q') (h : Agree R p' q') : Agree R p q := by
  induction hp generalizing q with
  | here p =>
      generalize hl : ([] : List Line) = all at hq
      induction hq with
      | here q => exact h
      | say _ _ => cases hl
      | log _ ihq => exact .logRight (ihq h hl)
  | @say line next lines p' tail ih =>
      -- The other program may log before it comes to the same line.
      generalize hl : line :: lines = all at hq
      induction hq with
      | here q => cases hl
      | say rest _ =>
          cases hl
          exact .say (ih rest h)
      | log _ ihq => exact .logRight (ihq ih h hl)
  | log tail ih => exact .logLeft (ih hq h)

end Program

end LaunchDesk
