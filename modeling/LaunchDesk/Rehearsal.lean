import LaunchDesk.Text.Infix
import LaunchDesk.Text.LowerCase
import LaunchDesk.Trace

/-!
# Rehearsals

A host that plays a script: one reply for each kind of call, and a list of answers for the
questions. With it a launch can be gone through without a platform and without a user.
-/

namespace LaunchDesk

/-- The replies of a platform that is only played. -/
structure Rehearsal where
  /-- The reply to both kinds of schedule call. -/
  schedule : Except CallError Offer
  /-- The reply to the order to start a job. -/
  start : Except CallError Receipt
  /-- The reply to a confirmed cluster. -/
  confirm : Except CallError Bool
  /-- The reply to the order to stop a job. -/
  stop : Except CallError Unit
  /-- The reply to the request for a list of jobs. -/
  list : Except CallError (List JobRecord)

namespace Rehearsal

/-- The failure of a call for which the script has no reply. -/
def unscripted (name : String) : CallError :=
  .refused 500 ("no scripted reply to " ++ name)

/-- A script without replies. -/
def silent : Rehearsal where
  schedule := .error (unscripted "schedule")
  start := .error (unscripted "run")
  confirm := .error (unscripted "confirm")
  stop := .error (unscripted "stop")
  list := .error (unscripted "list")

/-- The reply to a call. -/
def reply (r : Rehearsal) : (c : Call) → CallResult c
  | .schedule .. => r.schedule
  | .scheduleOnCluster .. => r.schedule
  | .start .. => r.start
  | .confirmCluster .. => r.confirm
  | .stop .. => r.stop
  | .list .. => r.list

/-- The failure to answer a question for which the script has no answer. -/
def unanswered (question : String) : AnswerError :=
  ⟨"no scripted answer for '" ++ question ++ "'", []⟩

/-- The host that plays a script; its state is the list of answers to come. -/
def host (r : Rehearsal) : Host (List Answer) where
  serve := fun c answers => ⟨r.reply c, [], [], answers⟩
  answer := fun question answers =>
    match answers with
    | [] => (.error (unanswered question), [])
    | answer :: rest => (answer, rest)

/-- The script in which everything that follows a given offer goes well. -/
def smooth (offer : Offer) : Rehearsal where
  schedule := .ok offer
  start := .ok
    { jobId := offer.jobId
      jobUrl := offer.jobUrl
      projectName := some "default-project"
      jobName := some "mnist"
      status := some "RUNNING"
      message := none }
  confirm := .ok true
  stop := .ok ()
  list := .ok
    [{ jobName := "mnist"
       jobId := offer.jobId
       status := "RUNNING"
       startedAt := "2024-03-01 10:00:00"
       hours := 0
       cost := 0 }]

/-- The script with another reply to the schedule calls: the platform is down. -/
def withoutSchedule (r : Rehearsal) : Rehearsal :=
  { r with schedule := .error (.refused 503 "service unavailable") }

/-- The script in which no job can be started. -/
def withoutStart (r : Rehearsal) : Rehearsal :=
  { r with start := .error (.refused 500 "run failed") }

/-- The script in which no job can be stopped. -/
def withoutStop (r : Rehearsal) : Rehearsal :=
  { r with stop := .error (.refused 500 "stop failed") }

/-- The lines that were said; an empty plain line does not count. -/
def lines (trace : List Event) : List String :=
  ((Trace.lines trace).filter fun line => line.tone != .info || !line.text.isEmpty).map Line.text

/-- The jobs that were to be stopped. -/
def stopped (calls : List Call) : List String :=
  calls.filterMap fun
    | .stop jobId _ => some jobId
    | _ => none

/-- The number of lines that have a text as a part. -/
def count (part : String) (lines : List String) : Nat :=
  lines.countP fun line => Text.hasInfix part.toList line.toList

end Rehearsal

/-- A machine as it could be on offer, all of a size with the number of its accelerators. -/
def Machine.sample (provider accelerator : String) (count : UInt32) : Machine where
  provider := provider
  instanceType :=
    "gpu_" ++ Decimal.natText count.toNat ++ "x_" ++ Text.lowerCase accelerator
  vcpus := 8 * count
  memory := 64.0 * Float.ofNat count.toNat
  accelerator := accelerator
  acceleratorCount := count
  region := "us-east-1"
  cost := 1.5 * Float.ofNat count.toNat

/-- An offer as it could come from the platform, with one machine. -/
def Offer.sample (status : StartStatus) : Offer where
  jobId := "1024"
  jobUrl := "https://open.fedml.ai/jobs/1024"
  status := status
  message := none
  machines := [.sample "lambda" "A100" 1]
  clusterId := none
  projectName := some "default-project"
  jobName := some "mnist"

end LaunchDesk
