import LaunchDesk.Decimal.Numeral
import LaunchDesk.Job.Basic

/-!
# Calls to the platform

The six things the platform is asked for, the type of each answer, and the ways in which a call can
fail before there is an answer.
-/

namespace LaunchDesk

/-- A call to the platform. -/
inductive Call where
  /-- Find machines for the job that a file defines, in a queue group if one is given. -/
  | schedule (file : String) (group : Option String)
  /-- Find machines for the job that a file defines, on a cluster. -/
  | scheduleOnCluster (file : String) (cluster : String)
  /-- Start the job of an offer. -/
  | start (offer : Offer)
  /-- Take a cluster for the accepted machines and start its job. -/
  | confirmCluster (clusterId : String) (machines : List Machine)
  /-- Stop a job. -/
  | stop (jobId : String) (platform : Platform)
  /-- List the jobs of a project, or one of them. -/
  | list (projectName : String) (platform : Platform) (jobId : Option String)
  deriving DecidableEq, Repr

/-- The type of the answer to a call. -/
@[reducible] def Call.Answer : Call → Type
  | schedule .. => Offer
  | scheduleOnCluster .. => Offer
  | start .. => Receipt
  | confirmCluster .. => Bool
  | stop .. => Unit
  | list .. => List JobRecord

/-- Why a request got no response. -/
inductive RequestFault where
  /-- The address or the key cannot be part of a request, so none was sent. -/
  | unsendable
  /-- An address is well formed, but no request can be sent to it. -/
  | unreachable (url : String)
  /-- The server at an address did not respond. -/
  | unanswered (url : String)
  deriving DecidableEq, Repr

/-- The text of a request fault. -/
def RequestFault.message : RequestFault → String
  | unsendable => "builder error"
  | unreachable url => "builder error for url (" ++ url ++ ")"
  | unanswered url => "error sending request for url (" ++ url ++ ")"

/-- Why a call has no answer. -/
inductive CallError where
  /-- There was no response. -/
  | requestFailed (fault : RequestFault)
  /-- The platform refused. -/
  | refused (status : Nat) (message : String)
  /-- The response is no answer. -/
  | badReply (message : String)
  /-- The file that defines the job cannot be read. -/
  | jobFile (path : String) (reason : String)
  deriving DecidableEq, Repr

namespace CallError

/-- The text of an error. -/
def message : CallError → String
  | requestFailed fault => "HTTP request failed: " ++ fault.message
  | refused status message => "API error (status " ++ Decimal.natText status ++ "): " ++ message
  | badReply message => "Failed to parse response: " ++ message
  | jobFile path reason => "Failed to read job file " ++ path ++ ": " ++ reason

/-- The text of an error as the failure of a launch. -/
def launchMessage (e : CallError) : String :=
  "Platform call failed: " ++ e.message

/-- Whether the platform did not accept the key. -/
def unauthorized : CallError → Bool
  | refused status _ => status == 401 || status == 403
  | _ => false

/-- Whether the fault is on the side of the platform. -/
def serverError : CallError → Bool
  | refused status _ => 500 ≤ status
  | _ => false

end CallError

/-- The outcome of a call. -/
abbrev CallResult (c : Call) := Except CallError c.Answer

end LaunchDesk
