import LaunchDesk.Program

/-!
# Views of a trace

A trace is read for one kind of event at a time: the lines, the questions, the calls, the requests,
or the log.

## Implementation notes

Each view takes a trace apart event by event, so a view of a run in two parts is a view of the first
part and one of the second.
-/

namespace LaunchDesk.Trace

/-- The lines that were said. -/
def lines (trace : List Event) : List Line :=
  trace.filterMap fun
    | .said line => some line
    | _ => none

/-- The questions that were asked. -/
def questions (trace : List Event) : List String :=
  trace.filterMap fun
    | .asked question => some question
    | _ => none

/-- The calls that were made. -/
def calls (trace : List Event) : List Call :=
  trace.filterMap fun
    | .called c => some c
    | _ => none

/-- The requests that reached a server. -/
def requests (trace : List Event) : List Http.Request :=
  trace.filterMap fun
    | .posted request => some request
    | _ => none

/-- The entries that were logged. -/
def entries (trace : List Event) : List LogEntry :=
  trace.filterMap fun
    | .logged entry => some entry
    | _ => none

@[simp] theorem questions_append (s t : List Event) :
    questions (s ++ t) = questions s ++ questions t :=
  List.filterMap_append

@[simp] theorem requests_append (s t : List Event) :
    requests (s ++ t) = requests s ++ requests t :=
  List.filterMap_append

/-- A host that serves a call asks nothing. -/
theorem questions_events {σ : Type} {c : Call} (s : Served σ c) : questions s.events = [] := by
  simp only [questions, Served.events, List.filterMap_append, List.filterMap_map,
    Function.comp_def]
  simp

/-- The requests of a call are the ones that its host sent for it. -/
theorem requests_events {σ : Type} {c : Call} (s : Served σ c) :
    requests s.events = s.requests := by
  simp only [requests, Served.events, List.filterMap_append, List.filterMap_map,
    Function.comp_def]
  simp

end LaunchDesk.Trace
