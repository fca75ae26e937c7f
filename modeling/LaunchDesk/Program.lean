import LaunchDesk.Call
import LaunchDesk.Http.Message

/-!
# Interactive programs

A program says lines, asks questions, calls the platform and keeps a log. A host answers its
questions and calls; running a program on a host leaves a trace of all that happened.

## Implementation notes

A program sees nothing of its host but the answers, so what holds of a program holds on every host.
A host may log and send requests behind a call, and nothing else: it has no way to say or ask
anything, or to make a call that the program did not make.
-/

namespace LaunchDesk

/-- The tone of a line. -/
inductive Tone where
  | info
  | warn
  | error
  | success
  deriving DecidableEq, Repr

/-- A line for the user; its text may have several lines of its own. -/
structure Line where
  /-- The tone. -/
  tone : Tone
  /-- The text. -/
  text : String
  deriving DecidableEq, Repr

/-- How much a log entry matters. -/
inductive LogLevel where
  | debug
  | info
  | warn
  deriving DecidableEq, Repr

/-- The part of the program that a log entry comes from. -/
inductive LogSource where
  | launch
  | interpretation
  | negotiation
  | jobClient
  | clusterClient
  deriving DecidableEq, Repr

/-- A log entry. -/
structure LogEntry where
  /-- How much it matters. -/
  level : LogLevel
  /-- Where it comes from. -/
  source : LogSource
  /-- The text. -/
  text : String
  deriving DecidableEq, Repr

/-- Why an answer could not be read: a message and its causes, the outermost first. -/
structure AnswerError where
  /-- What happened. -/
  message : String
  /-- Why it happened. -/
  causes : List String
  deriving DecidableEq, Repr

namespace AnswerError

/-- The message and all causes. -/
def chain (e : AnswerError) : List String :=
  e.message :: e.causes

/-- The message and all causes in one line. -/
def detail (e : AnswerError) : String :=
  ": ".intercalate e.chain

end AnswerError

/-- The answer to a yes/no question, if it could be read. -/
abbrev Answer := Except AnswerError Bool

/-- A program with a result of a type. -/
inductive Program (α : Type) : Type where
  /-- End with a result. -/
  | done (a : α)
  /-- Say a line and go on. -/
  | say (line : Line) (next : Program α)
  /-- Log an entry and go on. -/
  | log (entry : LogEntry) (next : Program α)
  /-- Ask a yes/no question and go on with the answer. -/
  | ask (question : String) (next : Answer → Program α)
  /-- Call the platform and go on with the outcome. -/
  | call (c : Call) (next : CallResult c → Program α)

namespace Program

variable {α β : Type}

/-- Run a program and then another one that depends on the result. -/
def bind : Program α → (α → Program β) → Program β
  | done a, f => f a
  | say line next, f => say line (next.bind f)
  | log entry next, f => log entry (next.bind f)
  | ask question next, f => ask question fun answer => (next answer).bind f
  | call c next, f => call c fun result => (next result).bind f

instance : Monad Program where
  pure := done
  bind := bind

@[simp] theorem pure_eq (a : α) : (pure a : Program α) = done a := rfl

@[simp] theorem bind_eq (p : Program α) (f : α → Program β) : p >>= f = p.bind f := rfl

@[simp] theorem done_bind (a : α) (f : α → Program β) : (done a).bind f = f a := rfl

@[simp] theorem say_bind (line : Line) (next : Program α) (f : α → Program β) :
    (say line next).bind f = say line (next.bind f) := rfl

@[simp] theorem log_bind (entry : LogEntry) (next : Program α) (f : α → Program β) :
    (log entry next).bind f = log entry (next.bind f) := rfl

@[simp] theorem ask_bind (question : String) (next : Answer → Program α) (f : α → Program β) :
    (ask question next).bind f = ask question fun answer => (next answer).bind f := rfl

@[simp] theorem call_bind (c : Call) (next : CallResult c → Program α) (f : α → Program β) :
    (call c next).bind f = call c fun result => (next result).bind f := rfl

theorem bind_done (p : Program α) : p.bind done = p := by
  induction p with
  | done a => rfl
  | say line next ih => simp [ih]
  | log entry next ih => simp [ih]
  | ask question next ih => simp [ih]
  | call c next ih => simp [ih]

theorem bind_assoc {γ : Type} (p : Program α) (f : α → Program β) (g : β → Program γ) :
    (p.bind f).bind g = p.bind fun a => (f a).bind g := by
  induction p with
  | done a => rfl
  | say line next ih => simp [ih]
  | log entry next ih => simp [ih]
  | ask question next ih => simp [ih]
  | call c next ih => simp [ih]

end Program

/-- Say a plain line. -/
def info (text : String) : Program Unit :=
  .say ⟨.info, text⟩ (.done ())

/-- Say a line that deserves attention. -/
def warn (text : String) : Program Unit :=
  .say ⟨.warn, text⟩ (.done ())

/-- Say that something failed. -/
def error (text : String) : Program Unit :=
  .say ⟨.error, text⟩ (.done ())

/-- Say that something worked. -/
def success (text : String) : Program Unit :=
  .say ⟨.success, text⟩ (.done ())

/-- Log an entry. -/
def log (level : LogLevel) (source : LogSource) (text : String) : Program Unit :=
  .log ⟨level, source, text⟩ (.done ())

/-- Ask a yes/no question. -/
def ask (question : String) : Program Answer :=
  .ask question .done

/-- Call the platform. -/
def call (c : Call) : Program (CallResult c) :=
  .call c .done

/-- Something that happened in a run. -/
inductive Event where
  /-- A line was said. -/
  | said (line : Line)
  /-- A question was asked. -/
  | asked (question : String)
  /-- The platform was called. -/
  | called (c : Call)
  /-- A request went out. -/
  | posted (request : Http.Request)
  /-- An entry was logged. -/
  | logged (entry : LogEntry)
  deriving DecidableEq, Repr

/-- How a host served a call. -/
structure Served (σ : Type) (c : Call) where
  /-- The outcome. -/
  result : CallResult c
  /-- What the host logged before it did anything else. -/
  notes : List LogEntry
  /-- The requests that the host sent and that reached a server. -/
  requests : List Http.Request
  /-- The state of the host afterwards. -/
  state : σ

/-- What happened behind a call. -/
def Served.events {σ : Type} {c : Call} (s : Served σ c) : List Event :=
  s.notes.map Event.logged ++ s.requests.map Event.posted

/-- What answers the calls and questions of a program. -/
structure Host (σ : Type) where
  /-- Serve a call. -/
  serve : (c : Call) → σ → Served σ c
  /-- Answer a question. -/
  answer : String → σ → Answer × σ

/-- A run of a program. -/
structure Run (σ α : Type) where
  /-- The result of the program. -/
  result : α
  /-- All that happened, in order. -/
  trace : List Event
  /-- The state of the host afterwards. -/
  state : σ

namespace Run

variable {σ α : Type}

/-- A run with some events in front. -/
def after (events : List Event) (run : Run σ α) : Run σ α :=
  { run with trace := events ++ run.trace }

@[simp] theorem result_after (events : List Event) (run : Run σ α) :
    (run.after events).result = run.result := rfl

@[simp] theorem trace_after (events : List Event) (run : Run σ α) :
    (run.after events).trace = events ++ run.trace := rfl

@[simp] theorem state_after (events : List Event) (run : Run σ α) :
    (run.after events).state = run.state := rfl

end Run

namespace Program

variable {σ α β : Type}

/-- Run a program on a host. -/
def run (host : Host σ) : Program α → σ → Run σ α
  | done a, s => ⟨a, [], s⟩
  | say line next, s => (next.run host s).after [.said line]
  | log entry next, s => (next.run host s).after [.logged entry]
  | ask question next, s =>
      let (answer, s) := host.answer question s
      ((next answer).run host s).after [.asked question]
  | call c next, s =>
      let served := host.serve c s
      ((next served.result).run host served.state).after (.called c :: served.events)

@[simp] theorem run_done (host : Host σ) (a : α) (s : σ) : (done a).run host s = ⟨a, [], s⟩ := rfl

@[simp] theorem run_say (host : Host σ) (line : Line) (next : Program α) (s : σ) :
    (say line next).run host s = (next.run host s).after [.said line] := rfl

@[simp] theorem run_log (host : Host σ) (entry : LogEntry) (next : Program α) (s : σ) :
    (log entry next).run host s = (next.run host s).after [.logged entry] := rfl

@[simp] theorem run_ask (host : Host σ) (question : String) (next : Answer → Program α) (s : σ) :
    (ask question next).run host s =
      ((next (host.answer question s).1).run host (host.answer question s).2).after
        [.asked question] := rfl

@[simp] theorem run_call (host : Host σ) (c : Call) (next : CallResult c → Program α) (s : σ) :
    (call c next).run host s =
      ((next (host.serve c s).result).run host (host.serve c s).state).after
        (.called c :: (host.serve c s).events) := rfl

/-- A run of two programs is a run of the first and one of the second. -/
theorem run_bind (host : Host σ) (p : Program α) (f : α → Program β) (s : σ) :
    (p.bind f).run host s =
      ((f (p.run host s).result).run host (p.run host s).state).after (p.run host s).trace := by
  induction p generalizing s with
  | done a => simp [Run.after]
  | say line next ih => simp [ih, Run.after]
  | log entry next ih => simp [ih, Run.after]
  | ask question next ih => simp [ih, Run.after]
  | call c next ih => simp [ih, Run.after]

end Program

end LaunchDesk
