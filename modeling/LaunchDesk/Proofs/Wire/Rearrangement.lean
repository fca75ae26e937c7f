import LaunchDesk.Proofs.Wire.Acceptance
import Mathlib.Logic.Relation

/-!
# Rearranged documents

The members of an object may be permuted, and members with unknown names may come and go, at any
depth of a document: the record that is read stays the same, or the refusal does.

## Implementation notes

What matters of a part of a document depends on who looks at it. The reader of a record looks at an
object's known names and at an array's first items; the reader of an entry looks at the items of a
list; nobody looks at the value of an unknown name. The role of a part says which of these it is.
The one object of fixed form is that in which a platform is spelled, so nothing is inserted there.
-/

namespace LaunchDesk

open Json Layout

/-- Who looks at a part of a document. -/
inductive Role where
  /-- The reader of a record. -/
  | record (r : RecordType)
  /-- The reader of a value. -/
  | value (k : Kind)
  /-- Nobody. -/
  | unseen
  deriving DecidableEq, Repr

namespace Role

/-- The role of an entry, if there is one. -/
def ofEntry {ρ : Type} (e : Option (RecordEntry ρ)) : Role :=
  e.elim unseen fun e => value e.kind

/-- The role of the value of a member. -/
def ofMember : Role → Option String → Role
  | record r, some name => ofEntry (r.entries.find? fun e => e.name = name)
  | _, _ => unseen

/-- The role of an item of an array. -/
def ofItem : Role → Nat → Role
  | record r, i => ofEntry r.entries[i]?
  | value (.list element), _ => record element
  | _, _ => unseen

/-- Whether a member of a name may come and go. -/
def Admits : Role → String → Prop
  | record r, name => name ∉ r.names
  | value k, _ => k ≠ .platform
  | unseen, _ => True

end Role

/-- A step that rearranges a document: it permutes the members of an object or inserts a member with
an unknown name, in the document or in one of its parts. -/
inductive Rearranges : Role → Json → Json → Prop
  | permute {role : Role} {members more : List (Option String × Json)} (h : members.Perm more) :
      Rearranges role (.obj members) (.obj more)
  | insert {role : Role} (before after : List (Option String × Json)) {name : String} (v : Json)
      (h : role.Admits name) :
      Rearranges role (.obj (before ++ after)) (.obj (before ++ (some name, v) :: after))
  | member {role : Role} {before after : List (Option String × Json)} {name : Option String}
      {v w : Json} (h : Rearranges (role.ofMember name) v w) :
      Rearranges role (.obj (before ++ (name, v) :: after)) (.obj (before ++ (name, w) :: after))
  | item {role : Role} {before after : List Json} {v w : Json}
      (h : Rearranges (role.ofItem before.length) v w) :
      Rearranges role (.arr (before ++ v :: after)) (.arr (before ++ w :: after))

/-- Whoever has the role sees the same in two documents. -/
def Role.Same : Role → Json → Json → Prop
  | record r, v, w => (Codec.of r.Value).read? v = (Codec.of r.Value).read? w
  | value k, v, w => ∀ x, k.Holds v x ↔ k.Holds w x
  | unseen, _, _ => True

section Values

/-- Only objects and arrays can be rearranged. -/
theorem Rearranges.ne_null {role : Role} {v w : Json} (h : Rearranges role v w) :
    v ≠ .null ∧ w ≠ .null := by
  cases h <;> simp

/-- An object is no value but of the platform, when it is spelled in it. -/
theorem Kind.holds_obj_iff {k : Kind} {members : List (Option String × Json)} {x : k.Value} :
    k.Holds (.obj members) x ↔ k = .platform ∧ members = [(some "FALCON", .null)] := by
  cases k with
  | platform => simp [Holds, Json.text, Platform.name]
  | option => cases x <;> simp [Holds, Json.text?, Json.text]
  | _ => simp [Holds, Json.text]

/-- An array is no value but of a list. -/
theorem Kind.not_holds_arr {k : Kind} (hk : ∀ element, k ≠ .list element) {items : List Json}
    {x : k.Value} : ¬ k.Holds (.arr items) x := by
  cases k with
  | list element => exact absurd rfl (hk element)
  | option => cases x <;> simp [Holds, Json.text?, Json.text]
  | _ => simp [Holds, Json.text]

end Values

section Objects

variable {r : RecordType} {members more before after : List (Option String × Json)}

/-- Objects that show every entry the same are read as the same record. -/
theorem read?_obj_congr (hn : NamesReadable members ↔ NamesReadable more)
    (h : ∀ e ∈ r.entries, ∀ x, e.Reads members x ↔ e.Reads more x) :
    (Codec.of r.Value).read? (.obj members) = (Codec.of r.Value).read? (.obj more) := by
  by_cases hreadable : NamesReadable members
  · ext v
    rw [read?_eq_some_iff r.follows hreadable, read?_eq_some_iff r.follows (hn.mp hreadable)]
    exact forall₂_congr fun e he => h e he _
  · rw [read?_eq_none r.follows hreadable, read?_eq_none r.follows (mt hn.mpr hreadable)]

theorem RecordEntry.reads_congr {ρ : Type} (e : RecordEntry ρ)
    (h : valuesOf e.name members = valuesOf e.name more) (x : e.kind.Value) :
    e.Reads members x ↔ e.Reads more x := by
  rw [RecordEntry.Reads, h, RecordEntry.Reads]

/-- The order of members does not matter, as a name with two values is no entry. -/
theorem RecordEntry.Reads.perm {ρ : Type} {e : RecordEntry ρ} {x : e.kind.Value}
    (h : e.Reads members x) (hperm : members.Perm more) : e.Reads more x := by
  have hvalues : (valuesOf e.name members).Perm (valuesOf e.name more) := (hperm.filter _).map _
  have heq : valuesOf e.name members = valuesOf e.name more := by
    rcases length_le_one_iff.mp h.length_le_one with hnil | ⟨doc, hone⟩
    · rw [hnil] at hvalues
      rw [hnil, hvalues.nil_eq]
    · rw [hone] at hvalues
      rw [hone, List.singleton_perm.mp hvalues]
  exact (e.reads_congr heq x).mp h

/-- One value of a name may be exchanged for another one that is the same to the entry. -/
theorem RecordEntry.reads_exchange {ρ : Type} (e : RecordEntry ρ) {v w : Json}
    (h : ∀ x, e.kind.Holds v x ↔ e.kind.Holds w x) (x : e.kind.Value) :
    e.Reads (before ++ (some e.name, v) :: after) x ↔
      e.Reads (before ++ (some e.name, w) :: after) x := by
  unfold RecordEntry.Reads
  simp only [valuesOf_append, valuesOf_cons_self]
  cases valuesOf e.name before with
  | nil =>
      cases valuesOf e.name after with
      | nil => exact h x
      | cons u us => exact Iff.rfl
  | cons u us =>
      cases us with
      | nil => exact Iff.rfl
      | cons => exact Iff.rfl

theorem find?_entry {ρ : Type} {entries : List (RecordEntry ρ)}
    (hn : (entries.map RecordEntry.name).Nodup) {e : RecordEntry ρ} (he : e ∈ entries) :
    (entries.find? fun f => f.name = e.name) = some e := by
  induction entries with
  | nil => cases he
  | cons f entries ih =>
      obtain ⟨hnew, hnodup⟩ := List.nodup_cons.mp hn
      rcases List.mem_cons.mp he with rfl | hrest
      · simp
      · have hne : f.name ≠ e.name := by
          intro heq
          exact hnew (heq ▸ List.mem_map_of_mem hrest)
        rw [List.find?_cons_of_neg (by simpa using hne)]
        exact ih hnodup hrest

theorem Role.ofMember_entry {e : RecordEntry r.Value} (he : e ∈ r.entries) :
    (Role.record r).ofMember (some e.name) = .value e.kind := by
  rw [ofMember, find?_entry r.nodup_names he]
  rfl

end Objects

section Items

/-- One item of an array may be exchanged for another one that is the same to its entry. -/
theorem readItems?_exchange {ρ β : Type} {layout : Layout β} {fields : ρ → β}
    {entries : List (RecordEntry ρ)} (hf : layout.Follows fields entries) {before after : List Json}
    {v w : Json} (h : (Role.ofEntry entries[before.length]?).Same v w) :
    layout.readItems? (before ++ v :: after) = layout.readItems? (before ++ w :: after) := by
  induction hf generalizing before with
  | nil => cases before <;> rfl
  | cons hread _ ih =>
      cases before with
      | nil =>
          have hcodec : _ = _ :=
            Option.ext fun x => (hread v x).trans ((h x).trans (hread w x).symm)
          simp only [List.nil_append, readItems?, hcodec]
      | cons u before =>
          simp only [List.cons_append, readItems?]
          rw [ih (by simpa using h)]

end Items

section Steps

variable {role : Role} {v w : Json}

theorem namesReadable_exchange {before after : List (Option String × Json)}
    {name : Option String} :
    NamesReadable (before ++ (name, v) :: after) ↔
      NamesReadable (before ++ (name, w) :: after) := by
  simp [NamesReadable, or_imp, forall_and]

theorem same_permute {members more : List (Option String × Json)} (h : members.Perm more) :
    role.Same (.obj members) (.obj more) := by
  cases role with
  | record r =>
      apply read?_obj_congr
      · exact ⟨fun hn m hm => hn m (h.mem_iff.mpr hm), fun hn m hm => hn m (h.mem_iff.mp hm)⟩
      · intro e _ x
        exact ⟨fun hx => hx.perm h, fun hx => hx.perm h.symm⟩
  | value k =>
      intro x
      have hone : members = [(some "FALCON", .null)] ↔ more = [(some "FALCON", .null)] := by
        constructor
        · rintro rfl
          exact (List.singleton_perm.mp h).symm
        · rintro rfl
          exact List.perm_singleton.mp h
      rw [Kind.holds_obj_iff, Kind.holds_obj_iff, hone]
  | unseen => trivial

theorem same_insert {before after : List (Option String × Json)} {name : String}
    (h : role.Admits name) :
    role.Same (.obj (before ++ after)) (.obj (before ++ (some name, v) :: after)) := by
  cases role with
  | record r =>
      apply read?_obj_congr
      · simp [NamesReadable, or_imp, forall_and]
      · intro e he
        have hne : (some name : Option String) ≠ some e.name := by
          rintro ⟨⟩
          exact h (List.mem_map_of_mem he)
        apply e.reads_congr
        rw [valuesOf_append, valuesOf_append, valuesOf_cons_of_ne hne]
  | value k =>
      intro x
      rw [Kind.holds_obj_iff, Kind.holds_obj_iff]
      exact iff_of_false (fun hx => h hx.1) (fun hx => h hx.1)
  | unseen => trivial

theorem same_member {before after : List (Option String × Json)} {name : Option String}
    (hv : v ≠ .null) (hw : w ≠ .null) (h : (role.ofMember name).Same v w) :
    role.Same (.obj (before ++ (name, v) :: after)) (.obj (before ++ (name, w) :: after)) := by
  cases role with
  | record r =>
      apply read?_obj_congr namesReadable_exchange
      intro e he
      by_cases hname : name = some e.name
      · subst hname
        rw [Role.ofMember_entry he] at h
        exact e.reads_exchange h
      · apply e.reads_congr
        simp only [valuesOf_append, valuesOf_cons_of_ne hname]
  | value k =>
      intro x
      have hform : ∀ u : Json, u ≠ .null →
          ¬ before ++ (name, u) :: after = [(some "FALCON", .null)] := by
        intro u hu heq
        have hmem : (name, u) ∈ [(some "FALCON", Json.null)] := by
          rw [← heq]
          simp
        exact hu (Prod.ext_iff.mp (List.mem_singleton.mp hmem)).2
      rw [Kind.holds_obj_iff, Kind.holds_obj_iff]
      exact iff_of_false (fun hx => hform v hv hx.2) (fun hx => hform w hw hx.2)
  | unseen => trivial

theorem same_item {before after : List Json} (h : (role.ofItem before.length).Same v w) :
    role.Same (.arr (before ++ v :: after)) (.arr (before ++ w :: after)) := by
  cases role with
  | record r =>
      have hf := r.follows
      simp only [Role.Same]
      generalize Codec.of r.Value = codec at hf
      cases hf with
      | codec layout hmake hfields hf =>
          simp only [Layout.codec, read?]
          rw [readItems?_exchange hf h]
  | value k =>
      intro x
      by_cases hk : ∃ element, k = .list element
      · obtain ⟨element, rfl⟩ := hk
        have hitem : (Codec.of element.Value).read? v = (Codec.of element.Value).read? w := h
        simp [Kind.Holds, hitem]
      · have hno : ∀ element, k ≠ .list element := fun element he => hk ⟨element, he⟩
        exact iff_of_false (Kind.not_holds_arr hno) (Kind.not_holds_arr hno)
  | unseen => trivial

/-- No step changes what the document is to its reader. -/
theorem Rearranges.same (h : Rearranges role v w) : role.Same v w := by
  induction h with
  | permute h => exact same_permute h
  | insert before after v h => exact same_insert h
  | member h ih => exact same_member h.ne_null.1 h.ne_null.2 ih
  | item h ih => exact same_item ih

end Steps

end LaunchDesk
