import LaunchDesk.Wire.Codec

/-!
# Record layouts

A layout lists the fields of a record in order. Reading by name, reading by position and writing all
follow the one list, so no two of them can disagree about a name, a type or the order.

## Implementation notes

A record can be written as an object, whose members have names, or as an array, whose items have
positions. A field may be missing from an object if it has a default or is optional; from the end
of an array only if it has a default. In an object every name must be a text, the name of a field
may occur once, and all other members are passed over.
-/

namespace LaunchDesk

/-- What becomes of a field that is missing. -/
inductive Missing (α : Type) where
  /-- The record is refused. -/
  | refused
  /-- The value stands in if the record is an object. -/
  | inObject (value : α)
  /-- The value stands in. -/
  | anywhere (value : α)

namespace Missing

variable {α : Type}

/-- What stands in for a member that is missing. -/
def inObject? : Missing α → Option α
  | refused => none
  | inObject a => some a
  | anywhere a => some a

/-- What stands in for an item that is missing. -/
def inArray? : Missing α → Option α
  | refused => none
  | inObject _ => none
  | anywhere a => some a

end Missing

/-- A field of a record. -/
structure Field (α : Type) where
  /-- The name of the field in an object. -/
  name : String
  /-- How its values are written. -/
  codec : Codec α
  /-- What becomes of it when it is missing. -/
  missing : Missing α
  /-- The values that are left out of an object. -/
  unwritten : α → Bool

namespace Field

/-- A field that must be there. -/
def required {α : Type} (name : String) (codec : Codec α) : Field α :=
  ⟨name, codec, .refused, fun _ => false⟩

/-- A field with a default. -/
def default {α : Type} (name : String) (codec : Codec α) (value : α) : Field α :=
  ⟨name, codec, .anywhere value, fun _ => false⟩

/-- An optional field whose default is its absence, and which is written even then. -/
def optional {α : Type} (name : String) (codec : Codec α) : Field (Option α) :=
  default name codec.optional none

/-- An optional field that is left out of an object when it has no value. -/
def unlessNone {α : Type} (name : String) (codec : Codec α) : Field (Option α) :=
  ⟨name, codec.optional, .inObject none, Option.isNone⟩

end Field

/-- The values of all members of a name. -/
def valuesOf (name : String) (members : List (Option String × Json)) : List Json :=
  (members.filter fun m => m.1 == some name).map (·.2)

/-- A field read from the members of an object. -/
def Field.readMember? {α : Type} (f : Field α) (members : List (Option String × Json)) : Option α :=
  match valuesOf f.name members with
  | [] => f.missing.inObject?
  | [v] => f.codec.read? v
  | _ => none

/-- The fields of a record in order; the type is the product of their types. -/
inductive Layout : Type → Type 1 where
  /-- No field. -/
  | nil : Layout Unit
  /-- A field in front of others. -/
  | cons {α β : Type} (f : Field α) (rest : Layout β) : Layout (α × β)

namespace Layout

/-- The fields read from the members of an object. -/
def readMembers? : {α : Type} → Layout α → List (Option String × Json) → Option α
  | _, .nil, _ => some ()
  | _, .cons f rest, members => do
      let a ← f.readMember? members
      let b ← rest.readMembers? members
      return (a, b)

/-- The fields read from the items of an array. -/
def readItems? : {α : Type} → Layout α → List Json → Option α
  | _, .nil, [] => some ()
  | _, .nil, _ :: _ => none
  | _, .cons f rest, [] => do
      let a ← f.missing.inArray?
      let b ← rest.readItems? []
      return (a, b)
  | _, .cons f rest, item :: items => do
      let a ← f.codec.read? item
      let b ← rest.readItems? items
      return (a, b)

/-- The members that are written for the fields. -/
def writeMembers : {α : Type} → Layout α → α → List (String × Json)
  | _, .nil, _ => []
  | _, .cons f rest, (a, b) =>
      (if f.unwritten a then [] else [(f.name, f.codec.write a)]) ++ rest.writeMembers b

/-- A record read in either form. -/
def read? {α : Type} (layout : Layout α) : Json → Option α
  | .obj members =>
      if members.all fun m => m.1.isSome then layout.readMembers? members else none
  | .arr items => layout.readItems? items
  | _ => none

/-- The codec of a structure whose fields a layout lists. -/
def codec {α β : Type} (layout : Layout β) (make : β → α) (fields : α → β) : Codec α where
  read? doc := (layout.read? doc).map make
  write a := Json.record (layout.writeMembers (fields a))

end Layout

end LaunchDesk
