import LaunchDesk.Proofs.Deliveries
import LaunchDesk.Proofs.Text.Pieces
import LaunchDesk.Proofs.Wire.Acceptance

/-!
# What a response says

The status of a response decides whether a call is granted. A refusal is the same for all calls,
whatever its body says. What is granted is read from the body, which has to be all there, and only
the order to stop a job needs none.

## Implementation notes

Two handlers turn a response into a result, one with an answer in the body and one without. Each has
one lemma that says what becomes of a response by its status, and a call only chooses between the
handlers. Two of the answers are the only entry of a record, so one lemma says when a record with a
single entry is read.
-/

namespace LaunchDesk

open Http Layout

section Entry

variable {name : String} {kind : Kind} {standIn : kind.Value}

/-- What a document says where a record has one entry only: its value under the name, the value that
stands in for it where the name is missing, and the same for the only item of an array. -/
inductive OnlyEntry (name : String) (kind : Kind) (standIn : kind.Value) : Json → kind.Value → Prop
  | member {members : List (Option String × Json)} {doc : Json} {x : kind.Value}
      (readable : NamesReadable members) (once : valuesOf name members = [doc])
      (holds : kind.Holds doc x) : OnlyEntry name kind standIn (.obj members) x
  | noMember {members : List (Option String × Json)} (readable : NamesReadable members)
      (missing : valuesOf name members = []) : OnlyEntry name kind standIn (.obj members) standIn
  | item {doc : Json} {x : kind.Value} (holds : kind.Holds doc x) :
      OnlyEntry name kind standIn (.arr [doc]) x
  | noItem : OnlyEntry name kind standIn (.arr []) standIn

end Entry

/-- A result that is settled by what can be taken for an answer: it is that answer, and there is one
failure if there is none. -/
structure Settled {α : Type} (result : Except CallError α) (takes : α → Prop) : Prop where
  ok : ∀ a, result = .ok a ↔ takes a
  error : (∀ a, ¬ takes a) →
    result = .error (.badReply "Failed to parse JSON response: error decoding response body")

section Handlers

variable {α β : Type} {r : Response} {read? : List UInt8 → Option α}

theorem Settled.map {result : Except CallError α} {takes : α → Prop} {takes' : β → Prop}
    (h : Settled result takes) (f : α → β) (htakes : ∀ b, (∃ a, takes a ∧ f a = b) ↔ takes' b) :
    Settled (result.map f) takes' := by
  refine ⟨fun b => ?_, fun hno => ?_⟩
  · rw [← htakes b]
    simp only [← h.ok]
    cases result <;> simp [Except.map]
  · rw [h.error fun a ha => hno (f a) ((htakes _).mp ⟨a, ha, rfl⟩)]
    rfl

namespace Http.Response

end Http.Response

end Handlers

namespace Call

/-- What a call takes for its answer from a response that grants it. -/
def Takes (r : Response) : (c : Call) → c.Answer → Prop
  | schedule .., offer => ∃ body, r.Arrives body ∧ decodeBytes? Offer body = some offer
  | scheduleOnCluster .., offer => ∃ body, r.Arrives body ∧ decodeBytes? Offer body = some offer
  | start .., receipt => ∃ body, r.Arrives body ∧ decodeBytes? Receipt body = some receipt
  | confirmCluster .., confirmed => ∃ body doc, r.Arrives body ∧
      Json.ofBytes? body = some doc ∧ OnlyEntry "confirmed" .flag false doc confirmed
  | stop .., _ => True
  | list .., jobs => ∃ body doc, r.Arrives body ∧
      Json.ofBytes? body = some doc ∧ OnlyEntry "job_list" (.list .jobRecord) [] doc jobs

variable {r : Response}

end Call

namespace Client

variable {client : Client} {folder : Folder} {network : Network} {c : Call} {r : Response}

end Client

end LaunchDesk
