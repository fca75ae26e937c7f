import LaunchDesk.Client
import LaunchDesk.Invocation
import LaunchDesk.LogFilter
import LaunchDesk.Terminal
import LaunchDesk.Trace

/-!
# Sessions

The program from its command line to its exit status: it finds out which platform to talk to, and
launches there what is ordered, with the user at the terminal.

## Implementation notes

All that a session depends on is in its surroundings, and all that it does is in its trace: what the
user sees, the requests and the log can be read off there.
-/

namespace LaunchDesk

/-- Why a session fails. -/
inductive Failure where
  /-- The settings are of no use. -/
  | settings (e : SettingsError)
  /-- The launch failed. -/
  | launch (e : LaunchError)
  deriving DecidableEq, Repr

/-- What happened, and its causes. -/
def Failure.chain : Failure → List String
  | settings e => [e.message]
  | launch e => e.chain

/-- The part of the surroundings of a session that it uses up. -/
structure Supplies where
  /-- What can be reached. -/
  network : Network
  /-- What the user will type. -/
  input : List UInt8

namespace Client

/-- The host that calls the platform as a client and asks the user at the terminal. -/
def host (client : Client) (folder : Folder) : Host Supplies where
  serve := fun c s =>
    let served := client.serve folder c s.network
    { result := served.result
      notes := served.notes
      requests := served.requests
      state := { s with network := served.state } }
  answer := fun _ s =>
    let (answer, input) := Terminal.readAnswer s.input
    (answer, { s with input := input })

end Client

namespace Invocation

/-- The settings that are asked for. -/
def settings (inv : Invocation) : Settings :=
  .resolve inv.platformUrl inv.version inv.apiKey

/-- The reason not to start, if there is one; a missing file comes first. -/
def failure? (inv : Invocation) : Option Failure :=
  if inv.order.files.isEmpty then some (.launch .noJobFile)
  else inv.settings.fault?.map .settings

/-- The client that is asked for. -/
def client (inv : Invocation) : Client :=
  .of inv.settings.platformUrl inv.settings.apiKey

/-- Note where a launch goes. -/
def noteStart (client : Client) (version : Version) : Program Unit :=
  log .info .launch ("Launching to " ++ client.baseUrl ++ " (" ++ version.describe ++
    "), api key " ++ if client.hasKey then "set" else "not set")

/-- The program that is asked for. -/
def program (inv : Invocation) : Program (Except LaunchError Unit) := do
  noteStart inv.client inv.version
  launch inv.order

end Invocation

/-- The end of a session. -/
structure Ending where
  /-- Whether it failed, and why. -/
  failure : Option Failure
  /-- All that happened. -/
  trace : List Event
  deriving DecidableEq, Repr

namespace Ending

/-- The exit status. -/
def exitCode (ending : Ending) : Nat :=
  if ending.failure.isSome then 1 else 0

/-- The lines of the log. -/
def logLines (ending : Ending) (filter : LogFilter) : List String :=
  ((Trace.entries ending.trace).filter filter.admits).flatMap LogEntry.lines

/-- The lines that report why a session failed. -/
def failureLines : List String → List String
  | [] => []
  | [message] => ["Error: " ++ message]
  | message :: causes =>
      ["Error: " ++ message, "", "Caused by:"] ++ causes.map ("    " ++ ·)

/-- All that is written beside what the user is told. -/
def diagnostics (ending : Ending) (filter : LogFilter) : List String :=
  ending.logLines filter ++ (ending.failure.map fun f => failureLines f.chain).getD []

end Ending

namespace Session

/-- Do what is asked for. -/
def obey (inv : Invocation) (folder : Folder) (supplies : Supplies) : Ending :=
  match inv.failure? with
  | some failure => ⟨some failure, []⟩
  | none =>
      let run := inv.program.run (inv.client.host folder) supplies
      match run.result with
      | .ok _ => ⟨none, run.trace⟩
      | .error e => ⟨some (.launch e), run.trace⟩

/-- A session with a command line in an environment. -/
def run (env : Environment) (words : List String) (folder : Folder) (supplies : Supplies) :
    Except CommandLine.Fault Ending :=
  (Invocation.parse env words).map fun inv => obey inv folder supplies

end Session

end LaunchDesk
