import LaunchDesk.Job.Report
import LaunchDesk.Path
import LaunchDesk.Program

/-!
# Negotiation

The way from the platform's offer to a decision of the user: the offer is read, its machines are
shown, and the user accepts it, declines it, or joins the queue. A job that the user turns away from
is stopped.

## Implementation notes

The decision is made before the platform hears of it, so nothing that the platform answers can
change it. An answer that cannot be read counts as a no until the negotiation is over; only then
does it become the result.
-/

namespace LaunchDesk

/-- What an offer comes to before its machines are looked at. -/
inductive Verdict where
  /-- The offer is worth showing. -/
  | matched
  /-- No machine is free, and the user waits for one. -/
  | queued
  /-- No machine is free, and the user does not wait. -/
  | queueDeclined
  /-- There is no job. -/
  | noJob
  /-- A credit card is missing. -/
  | cardMissing
  /-- Whether there is a credit card is unknown. -/
  | cardUnknown
  deriving DecidableEq, Repr

/-- How a negotiation ends. -/
inductive Outcome where
  /-- The user accepts the machines. -/
  | accepted
  /-- The user rejects the machines. -/
  | rejected
  /-- No machine is free, and the user waits for one. -/
  | queued
  /-- No machine is free, and the user does not wait. -/
  | queueDeclined
  /-- There is no job. -/
  | noJob
  /-- A credit card is missing. -/
  | cardMissing
  /-- Whether there is a credit card is unknown. -/
  | cardUnknown
  /-- The offer has no machines. -/
  | noMachines
  deriving DecidableEq, Repr

namespace Outcome

/-- The name of an outcome in the log. -/
def describe : Outcome → String
  | accepted => "MatchedConfirmed"
  | rejected => "MatchedRejected"
  | queued => "Queued"
  | queueDeclined => "QueueCanceled"
  | noJob => "UrlError"
  | cardMissing => "BlockedOnPayment"
  | cardUnknown => "PaymentQueryFailed"
  | noMachines => "NoMatchedResources"

/-- Whether the job may be launched. -/
def proceeds (outcome : Outcome) : Bool :=
  outcome == accepted

/-- Whether a job is left behind that nobody wants. -/
def cancels (outcome : Outcome) : Bool :=
  outcome == rejected || outcome == queueDeclined

end Outcome

/-- The question to a user for whom no machine is free. -/
def queueQuestion : String :=
  "Do you want to join the queue?"

/-- The question to a user who has seen the machines. -/
def launchQuestion : String :=
  "Do you want to launch the job with the above matched GPU resource?"

/-- Say why there is no job. -/
def reportNoJob : Option String → Program Unit
  | some message => error ("Failed to launch the job with response messages: " ++ message)
  | none => error "Failed to launch the job. Please check if the network is available."

/-- Offer a place in the queue. -/
def offerQueue : Program (Except AnswerError Verdict) := do
  info ""
  info "No resource available now, but we can keep your job in the waiting queue."
  match ← ask queueQuestion with
  | .error e => return .error e
  | .ok false => return .ok .queueDeclined
  | .ok true =>
      success "You have confirmed to keep your job in the waiting list."
      return .ok .queued

/-- Read the status of an offer with a job, which the file of some name defines. -/
def interpretStatus (offer : Offer) (file : String) : Program (Except AnswerError Verdict) :=
  match offer.status with
  | .invalid => do
      info ""
      warn ("Please check your " ++ Path.knownAs file ++
        " file to make sure the syntax is valid, " ++
        "e.g. whether minimum_num_gpus or maximum_cost_per_hour is valid.")
      return .ok .matched
  | .blocked => do
      info ""
      warn ("Because the value of maximum_cost_per_hour is too low, " ++
        "we can not find exactly matched machines for your job.")
      warn "But here we still present machines closest to your expected price as below."
      return .ok .matched
  | .queued => offerQueue
  | .bindCreditCardFirst => do
      error "Please bind your credit card before launching the job."
      return .ok .cardMissing
  | .creditCardQueryFailed => do
      error "Failed to query credit card binding status. Please try again later."
      return .ok .cardUnknown
  | .submitted => return .ok .matched
  | .launched => return .ok .matched
  | .unrecognized word => do
      log .warn .interpretation ("Job " ++ offer.jobId ++ " has unrecognized start status '" ++
        word ++ "', treating it as matched")
      return .ok .matched

/-- Read an offer for the job that a file defines. -/
def interpret (offer : Offer) (file : String) : Program (Except AnswerError Verdict) :=
  if offer.hasJob then interpretStatus offer file
  else do
    reportNoJob offer.message
    return .ok .noJob

/-- Show the machines of an offer; the result is their number, or none if there is nothing to
show. -/
def present (offer : Offer) : Program (Option Nat) :=
  if offer.machines.isEmpty then return none
  else do
    info ""
    info "Searched and matched the following GPU resource for your job:"
    info (machineTable offer.machines)
    info ""
    info "You can also view the matched GPU resource with Web UI at: "
    info offer.jobUrl
    return some offer.machines.length

/-- What the user decides, and the answer that could not be read, if one was asked for and could
not. -/
structure Decision where
  /-- The outcome. -/
  outcome : Outcome
  /-- The failure to read an answer. -/
  unread : Option AnswerError

/-- The decision for an outcome that needs no answer, or for which the answer was read. -/
def Decision.of (outcome : Outcome) : Decision :=
  ⟨outcome, none⟩

/-- The decision against the machines that were shown. -/
def reject (unread : Option AnswerError) : Program Decision := do
  info "Cancelling the job with the above matched GPU resource."
  return ⟨.rejected, unread⟩

/-- Ask for the decision on the machines that were shown. -/
def askForLaunch (offer : Offer) (shown : Nat) : Program Decision := do
  match ← ask launchQuestion with
  | .ok true =>
      info "Launching the job with the above matched GPU resource."
      log .info .negotiation ("Job " ++ offer.jobId ++ " confirmed on " ++ Decimal.natText shown ++
        " matched resource(s)")
      return .of .accepted
  | .ok false => reject none
  | .error e =>
      log .warn .negotiation ("No answer to the launch question for job " ++ offer.jobId ++ ": " ++
        e.detail)
      reject (some e)

/-- Show an offer and ask for a decision on it, if it has anything to show. -/
def decideOnMachines (offer : Offer) : Program Decision := do
  match ← present offer with
  | none =>
      log .warn .negotiation ("Job " ++ offer.jobId ++ " was matched without any resources")
      return .of .noMachines
  | some shown => askForLaunch offer shown

/-- Come from an offer to a decision. -/
def decideOn (offer : Offer) (file : String) : Program Decision := do
  match ← interpret offer file with
  | .error e =>
      log .warn .negotiation ("No answer to the queue question for job " ++ offer.jobId ++ ": " ++
        e.detail)
      return ⟨.queueDeclined, some e⟩
  | .ok .matched => decideOnMachines offer
  | .ok .queued => return .of .queued
  | .ok .queueDeclined => return .of .queueDeclined
  | .ok .noJob => return .of .noJob
  | .ok .cardMissing => return .of .cardMissing
  | .ok .cardUnknown => return .of .cardUnknown

/-- Stop a job that nobody wants. -/
def cancelJob (jobId : String) : Program Unit := do
  match ← call (.stop jobId .falcon) with
  | .ok _ => log .info .negotiation ("Stopped job " ++ jobId)
  | .error e =>
      log .warn .negotiation ("Failed to stop job " ++ jobId ++ ": " ++ e.message)
      error ("Failed to cancel job " ++ jobId ++ ": " ++ e.message)

/-- Act on a decision. -/
def settle (offer : Offer) (decision : Decision) : Program (Except AnswerError Outcome) := do
  if decision.outcome.cancels then cancelJob offer.jobId
  log .debug .negotiation ("Negotiation for job " ++ offer.jobId ++ " ended: " ++
    decision.outcome.describe)
  match decision.unread with
  | some e => return .error e
  | none => return .ok decision.outcome

/-- Negotiate on an offer for the job that a file defines; the result is an error exactly when an
answer could not be read. -/
def negotiate (offer : Offer) (file : String) : Program (Except AnswerError Outcome) := do
  settle offer (← decideOn offer file)

end LaunchDesk
