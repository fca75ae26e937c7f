import LaunchDesk.Trace

/-!
# Courses of a program

A course is everything that a program says, asks and calls, each question with the answer it gets
and each call with its reply. What holds of all courses of a program holds of its runs on every
host, and a run takes exactly one course.

## Implementation notes

The events of a trace do not hold the replies, and the log is no part of a course. So a course shows
at once what a claim about questions and replies speaks of, and it does not change when only the log
does.
-/

namespace LaunchDesk

namespace Trace

/-- What the program of a run did, without the log and the requests. -/
def acts (trace : List Event) : List Event :=
  trace.filter fun
    | .said _ | .asked _ | .called _ => true
    | .posted _ | .logged _ => false

@[simp] theorem acts_append (s t : List Event) : acts (s ++ t) = acts s ++ acts t :=
  List.filter_append s t

@[simp] theorem acts_said (line : Line) (t : List Event) :
    acts (.said line :: t) = .said line :: acts t := rfl

@[simp] theorem acts_asked (question : String) (t : List Event) :
    acts (.asked question :: t) = .asked question :: acts t := rfl

@[simp] theorem acts_called (c : Call) (t : List Event) :
    acts (.called c :: t) = .called c :: acts t := rfl

@[simp] theorem acts_logged (entry : LogEntry) (t : List Event) :
    acts (.logged entry :: t) = acts t := rfl

/-- What a host does behind a call is nothing that the program did. -/
theorem acts_events {σ : Type} {c : Call} (s : Served σ c) : acts s.events = [] := by
  simp [acts, Served.events, List.filter_map, Function.comp_def]

theorem calls_acts (t : List Event) : calls (acts t) = calls t := by
  induction t with
  | nil => rfl
  | cons e t ih => cases e <;> simp_all [calls, acts]

theorem questions_acts (t : List Event) : questions (acts t) = questions t := by
  induction t with
  | nil => rfl
  | cons e t ih => cases e <;> simp_all [questions, acts]

theorem lines_acts (t : List Event) : lines (acts t) = lines t := by
  induction t with
  | nil => rfl
  | cons e t ih => cases e <;> simp_all [lines, acts]

end Trace

/-- Something that a program did, together with what came back. -/
inductive Exchange where
  /-- A line was said. -/
  | said (line : Line)
  /-- A question was asked, and got an answer. -/
  | answered (question : String) (answer : Answer)
  /-- The platform was called, and replied. -/
  | served (c : Call) (reply : CallResult c)

namespace Exchange

/-- What a trace keeps of an exchange. -/
def event : Exchange → Event
  | said line => .said line
  | answered question _ => .asked question
  | served c _ => .called c

/-- The call of an exchange, if it is one. -/
def call? : Exchange → Option Call
  | served c _ => some c
  | _ => none

/-- The question of an exchange and its answer, if it is one. -/
def answer? : Exchange → Option (String × Answer)
  | answered question answer => some (question, answer)
  | _ => none

/-- The offer that came back in an exchange, if one did. -/
def offer? : Exchange → Option Offer
  | served (.schedule ..) (.ok offer) => some offer
  | served (.scheduleOnCluster ..) (.ok offer) => some offer
  | _ => none

/-- The line of an exchange, if it is one. -/
def line? : Exchange → Option Line
  | said line => some line
  | _ => none

end Exchange

/-- The calls of a course. -/
def callsOf (course : List Exchange) : List Call :=
  course.filterMap Exchange.call?

/-- The offers that came back in a course. -/
def offersOf (course : List Exchange) : List Offer :=
  course.filterMap Exchange.offer?

/-- The questions of a course with their answers. -/
def answersOf (course : List Exchange) : List (String × Answer) :=
  course.filterMap Exchange.answer?

/-- The lines of a course. -/
def linesOf (course : List Exchange) : List Line :=
  course.filterMap Exchange.line?

/-- Lines that are said one after the other. -/
def saying (lines : List Line) : List Exchange :=
  lines.map .said

section Views

variable {course rest : List Exchange} {line : Line} {lines : List Line}

@[simp] theorem callsOf_nil : callsOf [] = [] := rfl

@[simp] theorem callsOf_said : callsOf (.said line :: rest) = callsOf rest := rfl

@[simp] theorem callsOf_answered (question : String) (answer : Answer) :
    callsOf (.answered question answer :: rest) = callsOf rest := rfl

@[simp] theorem callsOf_served (c : Call) (reply : CallResult c) :
    callsOf (.served c reply :: rest) = c :: callsOf rest := rfl

@[simp] theorem callsOf_append : callsOf (course ++ rest) = callsOf course ++ callsOf rest :=
  List.filterMap_append

@[simp] theorem answersOf_nil : answersOf [] = [] := rfl

@[simp] theorem answersOf_said : answersOf (.said line :: rest) = answersOf rest := rfl

@[simp] theorem answersOf_answered (question : String) (answer : Answer) :
    answersOf (.answered question answer :: rest) = (question, answer) :: answersOf rest := rfl

@[simp] theorem answersOf_served (c : Call) (reply : CallResult c) :
    answersOf (.served c reply :: rest) = answersOf rest := rfl

@[simp] theorem answersOf_append :
    answersOf (course ++ rest) = answersOf course ++ answersOf rest :=
  List.filterMap_append

@[simp] theorem offersOf_nil : offersOf [] = [] := rfl

@[simp] theorem offersOf_answered (question : String) (answer : Answer) :
    offersOf (.answered question answer :: rest) = offersOf rest := rfl

/-- Only a schedule call brings an offer. -/
@[simp] theorem offersOf_start (offer : Offer) (reply : CallResult (.start offer)) :
    offersOf (.served (.start offer) reply :: rest) = offersOf rest := rfl

@[simp] theorem offersOf_confirmCluster (clusterId : String) (machines : List Machine)
    (reply : CallResult (.confirmCluster clusterId machines)) :
    offersOf (.served (.confirmCluster clusterId machines) reply :: rest) = offersOf rest := rfl

@[simp] theorem offersOf_stop (jobId : String) (platform : Platform)
    (reply : CallResult (.stop jobId platform)) :
    offersOf (.served (.stop jobId platform) reply :: rest) = offersOf rest := rfl

@[simp] theorem offersOf_list (projectName : String) (platform : Platform) (jobId : Option String)
    (reply : CallResult (.list projectName platform jobId)) :
    offersOf (.served (.list projectName platform jobId) reply :: rest) = offersOf rest := rfl

@[simp] theorem offersOf_append : offersOf (course ++ rest) = offersOf course ++ offersOf rest :=
  List.filterMap_append

@[simp] theorem linesOf_answered (question : String) (answer : Answer) :
    linesOf (.answered question answer :: rest) = linesOf rest := rfl

@[simp] theorem linesOf_served (c : Call) (reply : CallResult c) :
    linesOf (.served c reply :: rest) = linesOf rest := rfl

@[simp] theorem linesOf_append : linesOf (course ++ rest) = linesOf course ++ linesOf rest :=
  List.filterMap_append

@[simp] theorem linesOf_saying : linesOf (saying lines) = lines := by
  simp [linesOf, saying, List.filterMap_map, Function.comp_def, Exchange.line?]

/-- Lines are neither calls, answers nor offers. -/
@[simp] theorem callsOf_saying : callsOf (saying lines) = [] := by
  simp [callsOf, saying, Exchange.call?]

@[simp] theorem answersOf_saying : answersOf (saying lines) = [] := by
  simp [answersOf, saying, Exchange.answer?]

@[simp] theorem offersOf_saying : offersOf (saying lines) = [] := by
  simp [offersOf, saying, Exchange.offer?]

@[simp] theorem saying_nil : saying [] = [] := rfl

theorem saying_cons : saying (line :: lines) = .said line :: saying lines := rfl

theorem calls_map_event : Trace.calls (course.map Exchange.event) = callsOf course := by
  induction course with
  | nil => rfl
  | cons x course ih => cases x <;> simp_all [Trace.calls, Exchange.event]

theorem questions_map_event :
    Trace.questions (course.map Exchange.event) = (answersOf course).map Prod.fst := by
  induction course with
  | nil => rfl
  | cons x course ih =>
      cases x with
      | said line => exact ih
      | answered question answer => exact congrArg (question :: ·) ih
      | served c reply => exact ih

theorem lines_map_event : Trace.lines (course.map Exchange.event) = linesOf course := by
  induction course with
  | nil => rfl
  | cons x course ih =>
      cases x with
      | said line => exact congrArg (line :: ·) ih
      | answered question answer => exact ih
      | served c reply => exact ih

/-- A question gets an answer in a course exactly if the two are among its answers. -/
theorem answered_mem_iff {question : String} {answer : Answer} :
    Exchange.answered question answer ∈ course ↔ (question, answer) ∈ answersOf course := by
  induction course with
  | nil => simp
  | cons x course ih => cases x <;> simp_all [answersOf, Exchange.answer?]

end Views

namespace Program

variable {σ α β : Type}

/-- The courses of a program, each with the result at its end. -/
inductive Course : Program α → List Exchange → α → Prop
  | done (a : α) : Course (.done a) [] a
  | say {line next course a} (tail : Course next course a) :
      Course (.say line next) (.said line :: course) a
  | log {entry next course a} (tail : Course next course a) : Course (.log entry next) course a
  | ask {question next course a} (answer : Answer) (tail : Course (next answer) course a) :
      Course (.ask question next) (.answered question answer :: course) a
  | call {c next course a} (reply : CallResult c) (tail : Course (next reply) course a) :
      Course (.call c next) (.served c reply :: course) a

section Inversion

variable {course : List Exchange} {a b : α}

@[simp] theorem course_done_iff : (done a).Course course b ↔ course = [] ∧ b = a := by
  constructor
  · intro h
    cases h with
    | done => exact ⟨rfl, rfl⟩
  · rintro ⟨rfl, rfl⟩
    exact .done b

@[simp] theorem course_say_iff {line : Line} {next : Program α} :
    (say line next).Course course b ↔ ∃ rest, course = .said line :: rest ∧ next.Course rest b := by
  constructor
  · intro h
    cases h with
    | say tail => exact ⟨_, rfl, tail⟩
  · rintro ⟨rest, rfl, tail⟩
    exact .say tail

@[simp] theorem course_log_iff {entry : LogEntry} {next : Program α} :
    (log entry next).Course course b ↔ next.Course course b := by
  constructor
  · intro h
    cases h with
    | log tail => exact tail
  · exact .log

@[simp] theorem course_ask_iff {question : String} {next : Answer → Program α} :
    (ask question next).Course course b ↔
      ∃ answer rest, course = .answered question answer :: rest ∧ (next answer).Course rest b := by
  constructor
  · intro h
    cases h with
    | ask answer tail => exact ⟨answer, _, rfl, tail⟩
  · rintro ⟨answer, rest, rfl, tail⟩
    exact .ask answer tail

@[simp] theorem course_call_iff {c : Call} {next : CallResult c → Program α} :
    (call c next).Course course b ↔
      ∃ reply rest, course = .served c reply :: rest ∧ (next reply).Course rest b := by
  constructor
  · intro h
    cases h with
    | call reply tail => exact ⟨reply, _, rfl, tail⟩
  · rintro ⟨reply, rest, rfl, tail⟩
    exact .call reply tail

/-- The courses of two programs in a row are those of the first, continued by those of the
second. -/
theorem course_bind_iff {p : Program α} {f : α → Program β} {b : β} :
    (p.bind f).Course course b ↔
      ∃ front a rest, course = front ++ rest ∧ p.Course front a ∧ (f a).Course rest b := by
  induction p generalizing course with
  | done a =>
      constructor
      · intro hf
        exact ⟨[], a, course, rfl, .done a, hf⟩
      · rintro ⟨front, _, rest, rfl, hp, hf⟩
        obtain ⟨rfl, rfl⟩ := course_done_iff.mp hp
        exact hf
  | say line next ih =>
      simp only [say_bind, course_say_iff, ih]
      constructor
      · rintro ⟨_, rfl, front, a, rest, rfl, hp, hf⟩
        exact ⟨_, a, rest, rfl, ⟨front, rfl, hp⟩, hf⟩
      · rintro ⟨_, a, rest, rfl, ⟨front, rfl, hp⟩, hf⟩
        exact ⟨_, rfl, front, a, rest, rfl, hp, hf⟩
  | log entry next ih => simp only [log_bind, course_log_iff, ih]
  | ask question next ih =>
      simp only [ask_bind, course_ask_iff, ih]
      constructor
      · rintro ⟨answer, _, rfl, front, a, rest, rfl, hp, hf⟩
        exact ⟨_, a, rest, rfl, ⟨answer, front, rfl, hp⟩, hf⟩
      · rintro ⟨_, a, rest, rfl, ⟨answer, front, rfl, hp⟩, hf⟩
        exact ⟨answer, _, rfl, front, a, rest, rfl, hp, hf⟩
  | call c next ih =>
      simp only [call_bind, course_call_iff, ih]
      constructor
      · rintro ⟨reply, _, rfl, front, a, rest, rfl, hp, hf⟩
        exact ⟨_, a, rest, rfl, ⟨reply, front, rfl, hp⟩, hf⟩
      · rintro ⟨_, a, rest, rfl, ⟨reply, front, rfl, hp⟩, hf⟩
        exact ⟨reply, _, rfl, front, a, rest, rfl, hp, hf⟩

end Inversion

/-- The course that a program takes on a host. -/
def history (host : Host σ) : Program α → σ → List Exchange
  | done _, _ => []
  | say line next, s => .said line :: next.history host s
  | log _ next, s => next.history host s
  | ask question next, s =>
      let (answer, s) := host.answer question s
      .answered question answer :: (next answer).history host s
  | call c next, s =>
      let served := host.serve c s
      .served c served.result :: (next served.result).history host served.state

/-- What a run does and where it ends is one of the courses of its program. -/
theorem course_history (host : Host σ) (p : Program α) (s : σ) :
    p.Course (p.history host s) (p.run host s).result := by
  induction p generalizing s with
  | done a => exact .done a
  | say line next ih => exact .say (ih s)
  | log entry next ih => exact .log (ih s)
  | ask question next ih => exact .ask _ (ih _ _)
  | call c next ih => exact .call _ (ih _ _)

/-- The host that gives the replies of a course, one after the other. -/
def replay : Host (List Exchange) where
  serve := fun c course =>
    match course with
    | .served d reply :: rest =>
        if h : d = c then ⟨h ▸ reply, [], [], rest⟩ else ⟨.error (.badReply ""), [], [], rest⟩
    | _ => ⟨.error (.badReply ""), [], [], []⟩
  answer := fun _ course =>
    match course with
    | .answered _ answer :: rest => (answer, rest)
    | _ => (.error ⟨"", []⟩, [])

/-- The exchanges of a course in which something came back. -/
def repliesOf (course : List Exchange) : List Exchange :=
  course.filter fun
    | .said _ => false
    | _ => true

/-- Every course of a program is taken on some host, so the courses are exactly what hosts can make
of it. -/
theorem Course.replayed {p : Program α} {course : List Exchange} {a : α} (h : p.Course course a) :
    p.history replay (repliesOf course) = course ∧
      (p.run replay (repliesOf course)).result = a := by
  induction h with
  | done a => exact ⟨rfl, rfl⟩
  | say tail ih => simpa [history, repliesOf] using ih
  | log tail ih => simpa [history] using ih
  | ask answer tail ih => simpa [history, repliesOf, replay] using ih
  | call reply tail ih => simpa [history, repliesOf, replay] using ih

/-- The trace of a run is its course, but for the replies, the log and the requests. -/
theorem map_event_history (host : Host σ) (p : Program α) (s : σ) :
    (p.history host s).map Exchange.event = Trace.acts (p.run host s).trace := by
  induction p generalizing s with
  | done a => rfl
  | say line next ih => simp [history, Exchange.event, ih]
  | log entry next ih => simp [history, ih]
  | ask question next ih => simp [history, Exchange.event, ih]
  | call c next ih => simp [history, Exchange.event, Trace.acts_events, ih]

/-- The calls of a run are those of its course. -/
theorem calls_run_trace (host : Host σ) (p : Program α) (s : σ) :
    Trace.calls (p.run host s).trace = callsOf (p.history host s) := by
  calc Trace.calls (p.run host s).trace
      = Trace.calls (Trace.acts (p.run host s).trace) := (Trace.calls_acts _).symm
    _ = Trace.calls ((p.history host s).map Exchange.event) := by rw [map_event_history]
    _ = callsOf (p.history host s) := calls_map_event

/-- The questions of a run are those of its course. -/
theorem questions_run_trace (host : Host σ) (p : Program α) (s : σ) :
    Trace.questions (p.run host s).trace = (answersOf (p.history host s)).map Prod.fst := by
  calc Trace.questions (p.run host s).trace
      = Trace.questions (Trace.acts (p.run host s).trace) := (Trace.questions_acts _).symm
    _ = Trace.questions ((p.history host s).map Exchange.event) := by rw [map_event_history]
    _ = (answersOf (p.history host s)).map Prod.fst := questions_map_event

section Speech

/-- The lines that a program says before it asks or calls anything. -/
def said : Program α → List Line
  | done _ => []
  | say line next => line :: next.said
  | log _ next => next.said
  | ask _ _ => []
  | call _ _ => []

/-- A program that says some lines and goes on as another one. -/
inductive LeadsTo : Program α → List Line → Program α → Prop
  | here (p : Program α) : LeadsTo p [] p
  | say {line next lines q} (tail : LeadsTo next lines q) :
      LeadsTo (.say line next) (line :: lines) q
  | log {entry next lines q} (tail : LeadsTo next lines q) : LeadsTo (.log entry next) lines q

namespace LeadsTo

variable {p q r : Program α} {lines more : List Line}
  {course : List Exchange} {a b : α}

theorem said_eq (h : p.LeadsTo lines q) : p.said = lines ++ q.said := by
  induction h with
  | here p => rfl
  | say tail ih => simp [said, ih]
  | log tail ih => simp [said, ih]

theorem trans (h : p.LeadsTo lines q) (h' : q.LeadsTo more r) : p.LeadsTo (lines ++ more) r := by
  induction h with
  | here p => exact h'
  | say tail ih => exact .say (ih h')
  | log tail ih => exact .log (ih h')

/-- Nothing is said in between. -/
theorem trans_nil (h : p.LeadsTo lines q) (h' : q.LeadsTo [] r) : p.LeadsTo lines r := by
  simpa using h.trans h'

/-- The lines up to a question are known from the program. -/
theorem to_ask {question : String} {next : Answer → Program α}
    (h : p.LeadsTo lines (ask question next)) : p.LeadsTo p.said (ask question next) := by
  rwa [h.said_eq, said, List.append_nil]

/-- The lines up to the end are known from the program. -/
theorem to_done (h : p.LeadsTo lines (done a)) : p.LeadsTo p.said (done a) := by
  rwa [h.said_eq, said, List.append_nil]

/-- What is said first is said first also when something else follows. -/
theorem bind (h : p.LeadsTo lines q) (f : α → Program β) :
    (p.bind f).LeadsTo lines (q.bind f) := by
  induction h with
  | here p => exact .here _
  | say tail ih => exact .say ih
  | log tail ih => exact .log ih

/-- A program that only says something hands its result on. -/
theorem bind_done (h : p.LeadsTo lines (done a)) (f : α → Program β) :
    (p.bind f).LeadsTo lines (f a) :=
  h.bind f

theorem said_bind (h : p.LeadsTo lines (done a)) (f : α → Program β) :
    (p.bind f).said = p.said ++ (f a).said := by
  rw [(h.bind_done f).said_eq, h.said_eq, said, List.append_nil]

theorem course_iff (h : p.LeadsTo lines q) :
    p.Course course b ↔ ∃ rest, course = saying lines ++ rest ∧ q.Course rest b := by
  induction h generalizing course with
  | here p => simp
  | say tail ih =>
      simp only [course_say_iff, ih, saying_cons, List.cons_append]
      constructor
      · rintro ⟨_, rfl, rest, rfl, hq⟩
        exact ⟨rest, rfl, hq⟩
      · rintro ⟨rest, rfl, hq⟩
        exact ⟨_, rfl, rest, rfl, hq⟩
  | log tail ih => simp only [course_log_iff, ih]

/-- A program that only says something has one course. -/
theorem course_done_iff (h : p.LeadsTo lines (done a)) :
    p.Course course b ↔ course = saying lines ∧ b = a := by
  rw [h.course_iff]
  constructor
  · rintro ⟨rest, rfl, hq⟩
    obtain ⟨rfl, rfl⟩ := Program.course_done_iff.mp hq
    exact ⟨List.append_nil _, rfl⟩
  · rintro ⟨rfl, rfl⟩
    exact ⟨[], (List.append_nil _).symm, .done b⟩

end LeadsTo

end Speech

/-- What comes of a program on a host: the course it takes, its result, and the state in which it
leaves the host. -/
structure Takes (host : Host σ) (p : Program α) (s : σ) (course : List Exchange) (a : α) (t : σ) :
    Prop where
  history : p.history host s = course
  result : (p.run host s).result = a
  state : (p.run host s).state = t

section Taking

variable {host : Host σ} {s t : σ} {course : List Exchange} {a : α}

theorem takes_done (host : Host σ) (a : α) (s : σ) : Takes host (done a) s [] a s :=
  ⟨rfl, rfl, rfl⟩

theorem Takes.ask {question : String} {next : Answer → Program α}
    (h : Takes host (next (host.answer question s).1) (host.answer question s).2 course a t) :
    Takes host (.ask question next) s (.answered question (host.answer question s).1 :: course)
      a t :=
  ⟨congrArg _ h.history, h.result, h.state⟩

theorem Takes.call {c : Call} {next : CallResult c → Program α}
    (h : Takes host (next (host.serve c s).result) (host.serve c s).state course a t) :
    Takes host (.call c next) s (.served c (host.serve c s).result :: course) a t :=
  ⟨congrArg _ h.history, h.result, h.state⟩

/-- What is said first comes first on every host. -/
theorem LeadsTo.takes {p q : Program α} {lines : List Line} (hl : p.LeadsTo lines q)
    (h : Takes host q s course a t) : Takes host p s (saying lines ++ course) a t := by
  induction hl with
  | here p => exact h
  | say tail ih =>
      have htail := ih h
      exact ⟨congrArg _ htail.history, htail.result, htail.state⟩
  | log tail ih =>
      have htail := ih h
      exact ⟨htail.history, htail.result, htail.state⟩

/-- A program that only says something does so on every host. -/
theorem LeadsTo.takes_done {p : Program α} {lines : List Line} (hl : p.LeadsTo lines (done a))
    (host : Host σ) (s : σ) : Takes host p s (saying lines) a s := by
  simpa using hl.takes (Program.takes_done host a s)

/-- It does not need a host at all. -/
theorem LeadsTo.run_done_eq {p : Program α} {lines : List Line} (hl : p.LeadsTo lines (done a))
    (host other : Host σ) (s : σ) : p.run host s = p.run other s := by
  generalize hq : done a = q at hl
  induction hl with
  | here p =>
      subst hq
      rfl
  | say tail ih => simp only [run_say, ih hq]
  | log tail ih => simp only [run_log, ih hq]

/-- What is seen of a run is its course. -/
theorem Takes.acts_eq {p : Program α} (h : Takes host p s course a t) :
    Trace.acts (p.run host s).trace = course.map Exchange.event := by
  rw [← map_event_history, h.history]

theorem Takes.calls_eq {p : Program α} (h : Takes host p s course a t) :
    Trace.calls (p.run host s).trace = callsOf course := by
  rw [calls_run_trace, h.history]

theorem Takes.questions_eq {p : Program α} (h : Takes host p s course a t) :
    Trace.questions (p.run host s).trace = (answersOf course).map Prod.fst := by
  rw [questions_run_trace, h.history]

end Taking

end Program

/-- A host gives the answers and the replies of a course, one after the other, and is left in a
state. -/
inductive Host.Gives {σ : Type} (host : Host σ) : σ → List Exchange → σ → Prop
  | done (s : σ) : Gives host s [] s
  | said {s t : σ} {line : Line} {course : List Exchange} (tail : Gives host s course t) :
      Gives host s (.said line :: course) t
  | answered {s t : σ} {question : String} {course : List Exchange}
      (tail : Gives host (host.answer question s).2 course t) :
      Gives host s (.answered question (host.answer question s).1 :: course) t
  | served {s t : σ} {c : Call} {course : List Exchange}
      (tail : Gives host (host.serve c s).state course t) :
      Gives host s (.served c (host.serve c s).result :: course) t

namespace Program

section Giving

variable {σ α : Type} {host : Host σ} {p : Program α} {s t : σ} {course : List Exchange} {a : α}

theorem gives_history (host : Host σ) (p : Program α) (s : σ) :
    host.Gives s (p.history host s) (p.run host s).state := by
  induction p generalizing s with
  | done a => exact .done s
  | say line next ih => exact .said (ih s)
  | log entry next ih => exact ih s
  | ask question next ih => exact .answered (ih _ _)
  | call c next ih => exact .served (ih _ _)

/-- A host leaves a program no choice: of all its courses it takes the one that the host gives. -/
theorem takes_iff : Takes host p s course a t ↔ p.Course course a ∧ host.Gives s course t := by
  constructor
  · rintro ⟨rfl, rfl, rfl⟩
    exact ⟨course_history host p s, gives_history host p s⟩
  · rintro ⟨hc, hg⟩
    induction hc generalizing s with
    | done a =>
        cases hg with
        | done => exact takes_done host a _
    | say tail ih =>
        cases hg with
        | said hg =>
            obtain ⟨hh, hr, ht⟩ := ih hg
            exact ⟨congrArg _ hh, hr, ht⟩
    | log tail ih =>
        obtain ⟨hh, hr, ht⟩ := ih hg
        exact ⟨hh, hr, ht⟩
    | ask answer tail ih =>
        cases hg with
        | answered hg => exact (ih hg).ask
    | call reply tail ih =>
        cases hg with
        | served hg => exact (ih hg).call

/-- A host has nothing to do with what is said in between. -/
theorem gives_repliesOf : host.Gives s (repliesOf course) t ↔ host.Gives s course t := by
  induction course generalizing s with
  | nil => rfl
  | cons x course ih =>
      constructor
      · intro h
        cases x with
        | said line => exact .said (ih.mp h)
        | answered question answer =>
            cases h with
            | answered tail => exact .answered (ih.mp tail)
        | served c reply =>
            cases h with
            | served tail => exact .served (ih.mp tail)
      · intro h
        cases h with
        | said tail => exact ih.mpr tail
        | answered tail => exact .answered (ih.mpr tail)
        | served tail => exact .served (ih.mpr tail)

@[simp] theorem repliesOf_append (course rest : List Exchange) :
    repliesOf (course ++ rest) = repliesOf course ++ repliesOf rest :=
  List.filter_append course rest

@[simp] theorem repliesOf_saying (lines : List Line) : repliesOf (saying lines) = [] := by
  simp [repliesOf, saying]

theorem repliesOf_cons_saying (x : Exchange) (lines : List Line) (course : List Exchange) :
    repliesOf (x :: (saying lines ++ course)) = repliesOf (x :: course) := by
  have hcons : ∀ rest, repliesOf (x :: rest) = repliesOf [x] ++ repliesOf rest :=
    repliesOf_append [x]
  rw [hcons (saying lines ++ course), hcons course, repliesOf_append, repliesOf_saying,
    List.nil_append]

end Giving

end Program

end LaunchDesk
