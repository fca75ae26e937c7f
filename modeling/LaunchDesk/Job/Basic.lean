import LaunchDesk.Decimal.Numeral
import LaunchDesk.Text.Quoted

/-!
# Jobs

What the platform says about jobs, machines and clusters, and what it is told.
-/

namespace LaunchDesk

/-- The platform a job belongs to; there is one. -/
inductive Platform where
  | falcon
  deriving DecidableEq, Repr

/-- The name of a platform. -/
def Platform.name : Platform → String
  | falcon => "FALCON"

/-- A machine that the platform matched with a job. -/
structure Machine where
  /-- Who rents it out. -/
  provider : String
  /-- The name of the kind of machine. -/
  instanceType : String
  /-- The number of processors. -/
  vcpus : UInt32
  /-- The memory in gigabytes. -/
  memory : Float
  /-- The kind of accelerator. -/
  accelerator : String
  /-- The number of accelerators. -/
  acceleratorCount : UInt32
  /-- Where it stands. -/
  region : String
  /-- The price of an hour. -/
  cost : Float
  deriving DecidableEq, Repr

/-- The accelerators of a machine in short: kind and number. -/
def Machine.acceleratorSpec (m : Machine) : String :=
  m.accelerator ++ ":" ++ Decimal.natText m.acceleratorCount.toNat

/-- How a submission fared. -/
inductive StartStatus where
  /-- The job definition is faulty. -/
  | invalid
  /-- The price limit is too low. -/
  | blocked
  /-- No machine is free. -/
  | queued
  /-- The user has no credit card on file. -/
  | bindCreditCardFirst
  /-- Nobody could say whether the user has a credit card on file. -/
  | creditCardQueryFailed
  /-- The job has been taken in. -/
  | submitted
  /-- The job has been started. -/
  | launched
  /-- A word of the platform that has no meaning here. -/
  | unrecognized (word : String)
  deriving DecidableEq, Repr

namespace StartStatus

/-- The word that the platform uses for a status. -/
def word : StartStatus → String
  | invalid => "INVALID"
  | blocked => "BLOCKED"
  | queued => "QUEUED"
  | bindCreditCardFirst => "BIND_CREDIT_CARD_FIRST"
  | creditCardQueryFailed => "QUERY_CREDIT_CARD_BINDING_STATUS_FAILED"
  | submitted => "SUBMITTED"
  | launched => "LAUNCHED"
  | unrecognized word => word

/-- The status that a word of the platform stands for. -/
def ofWord (w : String) : StartStatus :=
  if w = "INVALID" then invalid
  else if w = "BLOCKED" then blocked
  else if w = "QUEUED" then queued
  else if w = "BIND_CREDIT_CARD_FIRST" then bindCreditCardFirst
  else if w = "QUERY_CREDIT_CARD_BINDING_STATUS_FAILED" then creditCardQueryFailed
  else if w = "SUBMITTED" then submitted
  else if w = "LAUNCHED" then launched
  else unrecognized w

/-- Every word survives its reading. -/
theorem word_ofWord (w : String) : (ofWord w).word = w := by
  unfold ofWord
  repeat' split
  all_goals simp_all [word]

/-- The name of a status, with the word of an unknown one in quotes. -/
def describe : StartStatus → String
  | invalid => "Invalid"
  | blocked => "Blocked"
  | queued => "Queued"
  | bindCreditCardFirst => "BindCreditCardFirst"
  | creditCardQueryFailed => "CreditCardQueryFailed"
  | submitted => "Submitted"
  | launched => "Launched"
  | unrecognized word => "Unrecognized(" ++ Text.quoted word ++ ")"

end StartStatus

/-- The platform's answer to a submitted job definition. -/
structure Offer where
  /-- The name of the job on the platform. -/
  jobId : String
  /-- Where the job can be seen; empty if there is no job. -/
  jobUrl : String
  /-- How the submission fared. -/
  status : StartStatus
  /-- A remark of the platform. -/
  message : Option String
  /-- The machines that fit. -/
  machines : List Machine
  /-- The cluster the job is to run on. -/
  clusterId : Option String
  /-- The project the job belongs to. -/
  projectName : Option String
  /-- The name of the job in its project. -/
  jobName : Option String
  deriving DecidableEq, Repr

namespace Offer

/-- Whether a job has come into being. -/
def hasJob (offer : Offer) : Bool :=
  !offer.jobUrl.isEmpty

/-- The cluster the job is to run on, if it has a name. -/
def cluster? (offer : Offer) : Option String :=
  offer.clusterId.filter fun id => !id.isEmpty

end Offer

/-- The platform's answer to the order to start a job. -/
structure Receipt where
  /-- The name of the job on the platform. -/
  jobId : String
  /-- Where the job can be seen; empty if it has not been started. -/
  jobUrl : String
  /-- The project the job belongs to. -/
  projectName : Option String
  /-- The name of the job in its project. -/
  jobName : Option String
  /-- How the job is doing. -/
  status : Option String
  /-- A remark of the platform. -/
  message : Option String
  deriving DecidableEq, Repr

/-- A line in the platform's list of jobs. -/
structure JobRecord where
  /-- The name of the job in its project. -/
  jobName : String
  /-- The name of the job on the platform. -/
  jobId : String
  /-- How the job is doing. -/
  status : String
  /-- When it was started. -/
  startedAt : String
  /-- For how many hours it has run. -/
  hours : Float
  /-- What it has cost. -/
  cost : Float
  deriving DecidableEq, Repr

/-- A list of jobs. -/
structure JobList where
  /-- The jobs in the platform's order. -/
  jobs : List JobRecord
  deriving DecidableEq, Repr

/-- The platform's answer to a confirmed cluster. -/
structure ClusterReply where
  /-- Whether the cluster is taken. -/
  confirmed : Bool
  deriving DecidableEq, Repr

/-- The request to schedule a job. -/
structure ScheduleRequest where
  /-- The bare name of the file that defines the job. -/
  fileName : String
  /-- The definition. -/
  definition : String
  /-- The queue group. -/
  groupId : Option String
  /-- The cluster. -/
  clusterName : Option String
  deriving DecidableEq, Repr

/-- The request to start a job that has been confirmed. -/
structure StartRequest where
  /-- The name of the job on the platform. -/
  jobId : String
  /-- The project the job belongs to. -/
  projectName : Option String
  /-- The name of the job in its project. -/
  jobName : Option String
  deriving DecidableEq, Repr

/-- The request to stop a job. -/
structure StopRequest where
  /-- The name of the job on the platform. -/
  jobId : String
  /-- The platform. -/
  platform : Platform
  deriving DecidableEq, Repr

/-- The request for a list of jobs. -/
structure ListRequest where
  /-- The project. -/
  projectName : String
  /-- The platform. -/
  platform : Platform
  /-- The only job that matters, if one does. -/
  jobId : Option String
  deriving DecidableEq, Repr

/-- The request to take a cluster for the machines that were accepted. -/
structure ClusterRequest where
  /-- The cluster. -/
  clusterId : String
  /-- The machines. -/
  machines : List Machine
  deriving DecidableEq, Repr

end LaunchDesk
