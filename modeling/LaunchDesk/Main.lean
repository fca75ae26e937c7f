import LaunchDesk.Session

/-!
# The program

A session at a real terminal with the real environment and a real file.

## Implementation notes

The program has no line to a network, so every call that could be sent stays unanswered.
-/

namespace LaunchDesk.Main

/-- The environment of the process. -/
def environment : IO Environment :=
  return ⟨← IO.getEnv "FALCON_API_KEY", ← IO.getEnv "FALCON_PLATFORM_URL", ← IO.getEnv "RUST_LOG"⟩

/-- The places on the way along a path. -/
def placesOn (path : String) : List (List String) :=
  (Path.steps path).scanl
    (fun place name => if name = ".." then Folder.above place else place ++ [name])
    (Folder.startOf path)

/-- The files at hand as far as a path leads to them. -/
def folderFor (path : String) : IO Folder :=
  try
    let content ← IO.FS.readBinFile path
    let places := placesOn path
    return ⟨(places.getLastD [], .file content.toList) ::
      places.dropLast.map fun place => (place, .folder)⟩
  catch _ => return ⟨[]⟩

/-- Read bytes up to the next line end. -/
partial def readLine (input : IO.FS.Stream) (taken : List UInt8) : IO (List UInt8) := do
  match (← input.read 1).toList with
  | [] => return taken.reverse
  | b :: _ => if b = 10 then return (b :: taken).reverse else readLine input (b :: taken)

/-- Write the lines of an entry if a filter lets it through. -/
def writeEntry (filter : LogFilter) (entry : LogEntry) : IO Unit := do
  if filter.admits entry then
    for line in entry.lines do IO.eprintln line

/-- Perform a program at the terminal. -/
def perform {α : Type} (client : Client) (folder : Folder) (colours : Bool) (filter : LogFilter) :
    Program α → IO α
  | .done a => return a
  | .say line next => do
      IO.print (String.ofList (Terminal.showLine colours line))
      perform client folder colours filter next
  | .log entry next => do
      writeEntry filter entry
      perform client folder colours filter next
  | .ask question next => do
      IO.print (String.ofList (Terminal.showQuestion question))
      (← IO.getStdout).flush
      let answer := Terminal.answerOf (← readLine (← IO.getStdin) [])
      perform client folder colours filter (next answer)
  | .call c next => do
      let served := client.serve folder c ⟨none, []⟩
      for entry in served.notes do writeEntry filter entry
      perform client folder colours filter (next served.result)

/-- Report a failure; the result is the exit status. -/
def report (failure : Failure) : IO UInt32 := do
  for line in Ending.failureLines failure.chain do IO.eprintln line
  return 1

/-- Do what is asked for; the result is the exit status. -/
def obey (env : Environment) (inv : Invocation) : IO UInt32 := do
  match inv.failure? with
  | some failure => report failure
  | none =>
      let folder ← folderFor (inv.order.files.headD "")
      let colours ← (← IO.getStdout).isTty
      match ← perform inv.client folder colours (.ofSetting env.logFilter) inv.program with
      | .ok _ => return 0
      | .error e => report (.launch e)

end LaunchDesk.Main

/-- Run the program with the words of its command line. -/
def main (words : List String) : IO UInt32 := do
  let env ← LaunchDesk.Main.environment
  match LaunchDesk.Invocation.parse env words with
  | .ok inv => LaunchDesk.Main.obey env inv
  | .error f =>
      IO.eprintln "Usage: falcon launch <JOB_FILE>"
      return UInt32.ofNat f.exitCode
