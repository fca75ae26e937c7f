import LaunchDesk.Proofs.Json.Documents
import LaunchDesk.Proofs.Wire.Entries
import Mathlib.Logic.Relation

/-!
# What a reader of records accepts

An object is read as a record entry by entry: it is refused if a known name occurs twice, if a
required one is missing or if a value is not of its kind, and accepted otherwise. Neither the order
of members nor members with other names matter, at any depth.

## Implementation notes

What matters of a part of a document depends on who looks at it. The reader of a record looks at an
object's known names and at an array's first items; the reader of an entry looks at the items of a
list; and nobody looks at the value of an unknown name. The role of a part says which of these it
is, and the steps of a rearrangement are allowed by the role of the object in which they are made.
The one object of fixed form is that in which a platform is spelled, so nothing is inserted there.
-/

namespace LaunchDesk

open Json Layout

section Reading

variable {ρ β : Type}

/-- What an entry is in an object: what stands in for it, or the one value of its name. -/
def RecordEntry.Reads (e : RecordEntry ρ) (members : List (Option String × Json))
    (x : e.kind.Value) : Prop :=
  match valuesOf e.name members with
  | [] => e.standIn? = some x
  | [doc] => e.kind.Holds doc x
  | _ => False

variable {layout : Layout β} {fields : ρ → β} {entries : List (RecordEntry ρ)} {codec : Codec ρ}
  {members : List (Option String × Json)}

theorem readMember?_eq_some_iff {k : Kind} {name : String} {codec : Codec k.Value}
    {missing : Missing k.Value} (unwritten : k.Value → Bool) (value : ρ → k.Value)
    (hread : k.Reads codec) {x : k.Value} :
    Field.readMember? ⟨name, codec, missing, unwritten⟩ members = some x ↔
      RecordEntry.Reads ⟨name, k, missing.inObject?, value⟩ members x := by
  unfold Field.readMember? RecordEntry.Reads
  rcases valuesOf name members with _ | ⟨doc, _ | ⟨other, rest⟩⟩
  · simp
  · simpa using hread doc x
  · simp

theorem readMembers?_eq_some_iff (h : layout.Follows fields entries) {v : ρ} :
    layout.readMembers? members = some (fields v) ↔
      ∀ e ∈ entries, e.Reads members (e.value v) := by
  induction h with
  | nil => simp [readMembers?]
  | @cons _ _ _ _ unwritten _ _ fields _ hread _ ih =>
      rw [List.forall_mem_cons, ← ih,
        ← readMember?_eq_some_iff unwritten (fun v => (fields v).1) hread]
      simp [readMembers?, Option.bind_eq_some_iff, Prod.ext_iff]

/-- An object is read as the record whose every value is what its entry is in the object. -/
theorem read?_eq_some_iff (h : codec.Follows entries) (hn : NamesReadable members) {v : ρ} :
    codec.read? (.obj members) = some v ↔ ∀ e ∈ entries, e.Reads members (e.value v) := by
  cases h with
  | codec layout hmake hfields h =>
      rw [← readMembers?_eq_some_iff h]
      simp only [Layout.codec, read?_obj _ hn, Option.map_eq_some_iff]
      constructor
      · rintro ⟨b, hb, rfl⟩
        rw [hb, hfields]
      · intro hv
        exact ⟨_, hv, hmake v⟩

theorem read?_eq_none (h : codec.Follows entries) (hn : ¬ NamesReadable members) :
    codec.read? (.obj members) = none := by
  cases h with
  | codec layout hmake hfields h =>
      have hall : (members.all fun m => m.1.isSome) = false := by
        simpa [NamesReadable] using hn
      simp [Layout.codec, read?, hall]

end Reading

theorem length_le_one_iff {α : Type} {as : List α} : as.length ≤ 1 ↔ as = [] ∨ ∃ a, as = [a] := by
  rw [Nat.le_one_iff_eq_zero_or_eq_one, List.length_eq_zero_iff, List.length_eq_one_iff]

section Entries

variable {ρ : Type} {members : List (Option String × Json)}

theorem RecordEntry.Reads.length_le_one {e : RecordEntry ρ} {x : e.kind.Value}
    (h : e.Reads members x) : (valuesOf e.name members).length ≤ 1 := by
  unfold RecordEntry.Reads at h
  split at h
  · next hnil => simp [hnil]
  · next hone => simp [hone]
  · exact h.elim

theorem RecordEntry.reads_iff (e : RecordEntry ρ) :
    (∃ x, e.Reads members x) ↔ (valuesOf e.name members).length ≤ 1 ∧
      (e.standIn? = none → valuesOf e.name members ≠ []) ∧
      ∀ doc ∈ valuesOf e.name members, e.kind.Fits doc := by
  by_cases hlen : (valuesOf e.name members).length ≤ 1
  · rcases length_le_one_iff.mp hlen with h | ⟨doc, h⟩
    · simp [RecordEntry.Reads, h, ← Option.isSome_iff_exists, Option.isSome_iff_ne_none]
    · simp [RecordEntry.Reads, h, Kind.Fits]
  · constructor
    · rintro ⟨x, h⟩
      exact absurd h.length_le_one hlen
    · rintro ⟨h, -⟩
      exact absurd h hlen

end Entries

end LaunchDesk
