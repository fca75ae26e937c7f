import LaunchDesk.Job.Wire

/-!
# The records of the wire format

The types that are exchanged, each under a name, and what a reader of a record looks at: the values
of the members that the record knows, and nothing else.

## Implementation notes

A statement about all records of the wire format ranges over the names of their types. The layouts
stay where they are; a name only leads to the layout of its type.
-/

namespace LaunchDesk

/-- The types of records that are exchanged. -/
inductive RecordType where
  | offer
  | machine
  | receipt
  | jobRecord
  | jobList
  | scheduleRequest
  | startRequest
  | stopRequest
  | listRequest
  | clusterRequest
  | clusterReply
  deriving DecidableEq, Repr

/-- The values of a type of records. -/
@[reducible] def RecordType.Value : RecordType → Type
  | offer => Offer
  | machine => Machine
  | receipt => Receipt
  | jobRecord => JobRecord
  | jobList => JobList
  | scheduleRequest => ScheduleRequest
  | startRequest => StartRequest
  | stopRequest => StopRequest
  | listRequest => ListRequest
  | clusterRequest => ClusterRequest
  | clusterReply => ClusterReply

instance : (r : RecordType) → Wire r.Value
  | .offer => inferInstanceAs (Wire Offer)
  | .machine => inferInstanceAs (Wire Machine)
  | .receipt => inferInstanceAs (Wire Receipt)
  | .jobRecord => inferInstanceAs (Wire JobRecord)
  | .jobList => inferInstanceAs (Wire JobList)
  | .scheduleRequest => inferInstanceAs (Wire ScheduleRequest)
  | .startRequest => inferInstanceAs (Wire StartRequest)
  | .stopRequest => inferInstanceAs (Wire StopRequest)
  | .listRequest => inferInstanceAs (Wire ListRequest)
  | .clusterRequest => inferInstanceAs (Wire ClusterRequest)
  | .clusterReply => inferInstanceAs (Wire ClusterReply)

/-- The types that are exchanged: records, statuses and platforms. -/
inductive WireType where
  | record (r : RecordType)
  | status
  | platform
  deriving DecidableEq, Repr

/-- The values of a type that is exchanged. -/
@[reducible] def WireType.Value : WireType → Type
  | record r => r.Value
  | status => StartStatus
  | platform => Platform

instance : (t : WireType) → Wire t.Value
  | .record r => inferInstanceAs (Wire r.Value)
  | .status => inferInstanceAs (Wire StartStatus)
  | .platform => inferInstanceAs (Wire Platform)

section Members

variable {name : String} {members more : List (Option String × Json)}

theorem valuesOf_append :
    valuesOf name (members ++ more) = valuesOf name members ++ valuesOf name more := by
  simp [valuesOf]

theorem valuesOf_cons_self (v : Json) :
    valuesOf name ((some name, v) :: members) = v :: valuesOf name members := by
  simp [valuesOf]

theorem valuesOf_cons_of_ne {other : Option String} (h : other ≠ some name) (v : Json) :
    valuesOf name ((other, v) :: members) = valuesOf name members := by
  simp [valuesOf, h]

theorem valuesOf_eq_nil (h : ∀ m ∈ members, m.1 ≠ some name) : valuesOf name members = [] := by
  simpa [valuesOf] using h

end Members

namespace Layout

variable {α : Type}

/-- The names that a layout knows. -/
def names : {α : Type} → Layout α → List String
  | _, .nil => []
  | _, .cons f rest => f.name :: rest.names

/-- Whether every name of an object is a text. -/
def NamesReadable (members : List (Option String × Json)) : Prop :=
  ∀ m ∈ members, m.1.isSome

theorem read?_obj (layout : Layout α) {members : List (Option String × Json)}
    (h : NamesReadable members) : layout.read? (.obj members) = layout.readMembers? members := by
  have hall : (members.all fun m => m.1.isSome) = true := List.all_eq_true.mpr h
  simp [read?, hall]

/-- A reader looks at nothing but the values of the members that it knows. -/
theorem readMembers?_congr (layout : Layout α) {members more : List (Option String × Json)}
    (h : ∀ name ∈ layout.names, valuesOf name members = valuesOf name more) :
    layout.readMembers? members = layout.readMembers? more := by
  induction layout with
  | nil => rfl
  | cons f rest ih =>
      obtain ⟨hf, hrest⟩ := List.forall_mem_cons.mp h
      simp only [readMembers?, Field.readMember?, hf, ih hrest]

end Layout

end LaunchDesk
