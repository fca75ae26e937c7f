import LaunchDesk.Negotiation

/-!
# Launches

A launch schedules a job, negotiates on the offer, and then either runs the job and shows how it is
doing, or takes a cluster for it.

## Implementation notes

What the platform refuses is told to the user and ends the launch in good order. A launch fails only
for want of a file, or when an answer cannot be read.
-/

namespace LaunchDesk

/-- What is to be launched. -/
structure Order where
  /-- The files that define jobs; only the first one counts. -/
  files : List String
  /-- The cluster to launch on. -/
  cluster : Option String
  /-- The queue group; a launch on a cluster has no use for it. -/
  group : Option String
  deriving DecidableEq, Repr

/-- Why a launch failed. -/
inductive LaunchError where
  /-- There is no file that defines a job. -/
  | noJobFile
  /-- An answer could not be read. -/
  | unread (e : AnswerError)
  deriving DecidableEq, Repr

namespace LaunchError

/-- What happened, and its causes. -/
def chain : LaunchError → List String
  | noJobFile => ["No job definition file given. Usage: falcon launch <JOB_FILE>"]
  | unread e => e.chain

end LaunchError

/-- The file that is launched. -/
def Order.file (order : Order) : Except LaunchError String :=
  match order.files with
  | [] => .error .noJobFile
  | file :: _ => .ok file

/-- What can be done about a failed call. -/
def reportHint (e : CallError) : Program Unit :=
  if e.unauthorized then warn "Please check your API key (--api_key or FALCON_API_KEY)."
  else if e.serverError then warn "The platform is unavailable right now. Please try again later."
  else return ()

/-- Say that a job could not be scheduled. -/
def reportUnscheduled (e : CallError) : Program Unit :=
  match e with
  | .jobFile .. => error ("Failed to launch the job: " ++ e.message)
  | _ => do
      log .warn .launch ("Schedule request failed: " ++ e.launchMessage)
      error "Failed to launch the job. Please check if the network is available."
      error e.launchMessage
      reportHint e

/-- Say that a job has not been started. -/
def reportNotStarted : Option String → Program Unit
  | some message => error ("Failed to launch the job with response messages: " ++ message)
  | none => error "Failed to launch the job"

/-- Show the jobs that the platform lists. -/
def reportJobs (jobs : List JobRecord) : Program Unit := do
  info ""
  if jobs.isEmpty then return ()
  else
    info "Your launch result is as follows:"
    info (jobTable jobs)

/-- Show how a started job is doing. -/
def reportProgress (receipt : Receipt) : Program Unit := do
  match ← call (.list (receipt.projectName.getD "") .falcon (some receipt.jobId)) with
  | .ok jobs => reportJobs jobs
  | .error e =>
      log .warn .launch ("Job status query failed for " ++ receipt.jobId ++ ": " ++ e.message)
      warn ("Failed to query the status of job " ++ receipt.jobId ++ ": " ++ e.message)

/-- Say what became of the order to start a job. -/
def reportReceipt (receipt : Receipt) : Program Unit :=
  if receipt.jobUrl.isEmpty then reportNotStarted receipt.message
  else reportProgress receipt

/-- Start the job of an offer. -/
def startJob (offer : Offer) : Program Unit := do
  match ← call (.start offer) with
  | .ok receipt => reportReceipt receipt
  | .error e =>
      log .warn .launch ("Run request failed: " ++ e.message)
      error "Failed to launch the job"
      error e.launchMessage

/-- Say that the cluster was not to be had. -/
def reportNoCluster : Program Unit :=
  error "Cluster confirmation failed. Please check if the cli arguments are valid"

/-- Take a cluster for the machines of an offer. -/
def confirmCluster (offer : Offer) (cluster : String) : Program Unit := do
  match ← call (.confirmCluster cluster offer.machines) with
  | .ok true =>
      log .info .launch ("Cluster " ++ cluster ++ " confirmed for job " ++ offer.jobId)
      success "Cluster successfully confirmed and job will be started on cluster soon."
  | .ok false => reportNoCluster
  | .error e =>
      log .warn .launch ("Cluster " ++ cluster ++ " confirmation request failed: " ++ e.message)
      reportNoCluster

/-- Start the job of an offer on the cluster that the offer names. -/
def startOnCluster (offer : Offer) : Program Unit :=
  match offer.cluster? with
  | some cluster => confirmCluster offer cluster
  | none => error "Cluster id was not assigned. Please check if the cli arguments are valid"

/-- Go on from the outcome of a schedule call: negotiate on the offer and, if it is accepted, do
what completes the launch. -/
def proceed (file : String) (complete : Offer → Program Unit) :
    Except CallError Offer → Program (Except LaunchError Unit)
  | .error e => do
      reportUnscheduled e
      return .ok ()
  | .ok offer => do
      match ← negotiate offer file with
      | .error e => return .error (.unread e)
      | .ok outcome =>
          if outcome.proceeds then complete offer
          return .ok ()

/-- Launch the job that a file defines. -/
def launchFile (file : String) (cluster group : Option String) :
    Program (Except LaunchError Unit) :=
  match cluster with
  | some name => do proceed file startOnCluster (← call (.scheduleOnCluster file name))
  | none => do proceed file startJob (← call (.schedule file group))

/-- Note that some files are not looked at. -/
def noteOthers (others : List String) : Program Unit :=
  if others.isEmpty then return ()
  else log .debug .launch ("Ignoring " ++ Decimal.natText others.length ++ " extra job file(s)")

/-- Launch what is ordered. -/
def launch (order : Order) : Program (Except LaunchError Unit) :=
  match order.files with
  | [] => return .error .noJobFile
  | file :: others => do
      noteOthers others
      launchFile file order.cluster order.group

end LaunchDesk
