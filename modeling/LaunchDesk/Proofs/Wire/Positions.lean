import LaunchDesk.Proofs.Wire.Rearrangement

/-!
# Records read by position

An array is read as the object that has its items under the names of the fields, position by
position. From its end it may leave out the fields that have a default, and an option is none of
these; it may not have more items than there are fields. So it is with the record of a document and
with every record inside.

## Implementation notes

The layouts settle how a record is read in either form, field by field, so the two are compared by
induction on the layout. A record inside a document is one at a place whose role is that of its
reader: if the two forms are the same to this reader, they are the same to the reader of the
document, and if this reader refuses an array, so does the reader of the document.
-/

namespace LaunchDesk

open Json Layout

/-- An array with so many items has a name for each of them, and leaves out no names but those that
have a default. -/
structure Spans (names defaulted : List String) (n : Nat) : Prop where
  within : n ≤ names.length
  rest : ∀ name ∈ names.drop n, name ∈ defaulted

namespace Layout

variable {β : Type}

/-- The names of the fields that may be missing from the end of an array. -/
def defaulted : {β : Type} → Layout β → List String
  | _, .nil => []
  | _, .cons f rest =>
      if f.missing.inArray?.isSome then f.name :: rest.defaulted else rest.defaulted

theorem defaulted_subset (layout : Layout β) : layout.defaulted ⊆ layout.names := by
  induction layout with
  | nil => exact List.Subset.refl _
  | cons f rest ih =>
      rw [defaulted, names]
      split_ifs
      · exact List.cons_subset_cons _ ih
      · exact List.subset_cons_of_subset _ ih

/-- What stands in for an item stands in for a member, too. -/
theorem Missing.inArray?_eq_some_iff {α : Type} {missing : Missing α} {a : α} :
    missing.inArray? = some a ↔ missing.inArray?.isSome ∧ missing.inObject? = some a := by
  cases missing <;> simp [Missing.inArray?, Missing.inObject?]

section Spans

variable {α : Type} {f : Field α} {rest : Layout β}

theorem mem_defaulted_cons (hf : f.name ∉ rest.names) :
    f.name ∈ (Layout.cons f rest).defaulted ↔ f.missing.inArray?.isSome := by
  rw [defaulted]
  split_ifs with h
  · simp [h]
  · exact iff_of_false (fun hmem => hf (rest.defaulted_subset hmem)) h

theorem mem_defaulted_cons_of_ne {name : String} (h : name ≠ f.name) :
    name ∈ (Layout.cons f rest).defaulted ↔ name ∈ rest.defaulted := by
  rw [defaulted]
  split_ifs
  · simp [h]
  · rfl

/-- Behind the first field the names that may be left out are those of the other fields. -/
theorem spans_rest_iff (hf : f.name ∉ rest.names) {n : Nat} :
    Spans rest.names (Layout.cons f rest).defaulted n ↔ Spans rest.names rest.defaulted n := by
  have hiff : ∀ name ∈ rest.names.drop n,
      (name ∈ (Layout.cons f rest).defaulted ↔ name ∈ rest.defaulted) := by
    intro name hname
    apply mem_defaulted_cons_of_ne
    rintro rfl
    exact hf (List.mem_of_mem_drop hname)
  constructor
  · exact fun h => ⟨h.within, fun name hname => (hiff name hname).mp (h.rest name hname)⟩
  · exact fun h => ⟨h.within, fun name hname => (hiff name hname).mpr (h.rest name hname)⟩

theorem spans_zero_iff (hf : f.name ∉ rest.names) :
    Spans (Layout.cons f rest).names (Layout.cons f rest).defaulted 0 ↔
      f.missing.inArray?.isSome ∧ Spans rest.names rest.defaulted 0 := by
  rw [← spans_rest_iff hf, ← mem_defaulted_cons hf]
  constructor
  · intro h
    obtain ⟨hfirst, hrest⟩ := List.forall_mem_cons.mp h.rest
    exact ⟨hfirst, Nat.zero_le _, hrest⟩
  · rintro ⟨hfirst, hrest⟩
    exact ⟨Nat.zero_le _, List.forall_mem_cons.mpr ⟨hfirst, hrest.rest⟩⟩

theorem spans_succ_iff (hf : f.name ∉ rest.names) {n : Nat} :
    Spans (Layout.cons f rest).names (Layout.cons f rest).defaulted (n + 1) ↔
      Spans rest.names rest.defaulted n := by
  rw [← spans_rest_iff hf]
  constructor
  · exact fun h => ⟨Nat.le_of_succ_le_succ h.within, h.rest⟩
  · exact fun h => ⟨Nat.succ_le_succ h.within, h.rest⟩

end Spans

/-- The members that items are under the names of their positions. -/
def keyed (names : List String) (items : List Json) : List (Option String × Json) :=
  named (names.zip items)

theorem keyed_readable (names : List String) (items : List Json) :
    NamesReadable (keyed names items) := by
  intro m hm
  obtain ⟨pair, -, rfl⟩ := List.mem_map.mp hm
  rfl

theorem valuesOf_keyed_eq_nil {name : String} {names : List String} (h : name ∉ names)
    (items : List Json) : valuesOf name (keyed names items) = [] := by
  refine valuesOf_eq_nil fun m hm heq => h ?_
  obtain ⟨pair, hpair, rfl⟩ := List.mem_map.mp hm
  obtain rfl : pair.1 = name := Option.some.inj heq
  exact (List.of_mem_zip hpair).1

theorem pair_eq_some_iff {α : Type} {x : Option α} {y : Option β} {a : α} {b : β} :
    (do let a ← x; let b ← y; return (a, b)) = some (a, b) ↔ x = some a ∧ y = some b := by
  simp [Option.bind_eq_some_iff]

/-- Items are read as the members that they are under the names of their positions. -/
theorem readItems?_eq_some_iff (layout : Layout β) (hn : layout.names.Nodup) {items : List Json}
    {b : β} : layout.readItems? items = some b ↔
      Spans layout.names layout.defaulted items.length ∧
        layout.readMembers? (keyed layout.names items) = some b := by
  induction layout generalizing items with
  | nil =>
      cases items with
      | nil => exact (and_iff_right ⟨Nat.le_refl 0, by simp [names]⟩).symm
      | cons item items =>
          refine iff_of_false (by simp [readItems?]) fun h => ?_
          exact absurd h.1.within (by simp [names])
  | @cons α β f rest ih =>
      obtain ⟨hf, hrest⟩ := List.nodup_cons.mp hn
      obtain ⟨a, b⟩ := b
      cases items with
      | nil =>
          have hkeyed : keyed (Layout.cons f rest).names [] = keyed rest.names [] := by
            simp [keyed]
          have hnone : f.readMember? (keyed rest.names []) = f.missing.inObject? := by
            rw [Field.readMember?, valuesOf_keyed_eq_nil hf]
          rw [List.length_nil, spans_zero_iff hf, hkeyed]
          rw [readItems?, readMembers?, pair_eq_some_iff, pair_eq_some_iff, hnone, ih hrest,
            Missing.inArray?_eq_some_iff, List.length_nil]
          exact and_and_and_comm
      | cons item items =>
          have hkeyed : keyed (Layout.cons f rest).names (item :: items) =
              (some f.name, item) :: keyed rest.names items := rfl
          have hitem : f.readMember? ((some f.name, item) :: keyed rest.names items) =
              f.codec.read? item := by
            rw [Field.readMember?, valuesOf_cons_self, valuesOf_keyed_eq_nil hf]
          have hothers : rest.readMembers? ((some f.name, item) :: keyed rest.names items) =
              rest.readMembers? (keyed rest.names items) := by
            refine rest.readMembers?_congr fun name hname => valuesOf_cons_of_ne ?_ item
            rintro ⟨⟩
            exact hf hname
          rw [List.length_cons, spans_succ_iff hf, hkeyed]
          rw [readItems?, readMembers?, pair_eq_some_iff, pair_eq_some_iff, hitem, hothers,
            ih hrest]
          exact and_left_comm

end Layout

/-- A codec of records whose layout has the given names, some of which have a default. -/
inductive Codec.LaidOut {ρ : Type} (names defaulted : List String) : Codec ρ → Prop
  | codec {β : Type} (layout : Layout β) {make : β → ρ} {fields : ρ → β}
      (hnames : layout.names = names) (hdefaulted : layout.defaulted = defaulted) :
      LaidOut names defaulted (layout.codec make fields)

namespace RecordType

/-- The names that have a default. An option may be missing from an object without one. -/
def defaulted : RecordType → List String
  | jobRecord => ["job_name", "status", "started_time", "compute_duration", "cost"]
  | offer => names offer
  | machine => names machine
  | receipt => names receipt
  | jobList => names jobList
  | clusterReply => names clusterReply
  | scheduleRequest | startRequest | stopRequest | listRequest | clusterRequest => []

/-- The layouts know the names of the table, in its order, and give defaults to those that it says
have one. -/
theorem laidOut (r : RecordType) : (Codec.of r.Value).LaidOut r.names r.defaulted := by
  cases r with
  | offer => exact .codec Offer.layout rfl rfl
  | machine => exact .codec Machine.layout rfl rfl
  | receipt => exact .codec Receipt.layout rfl rfl
  | jobRecord => exact .codec JobRecord.layout rfl rfl
  | jobList => exact .codec JobList.layout rfl rfl
  | scheduleRequest => exact .codec ScheduleRequest.layout rfl rfl
  | startRequest => exact .codec StartRequest.layout rfl rfl
  | stopRequest => exact .codec StopRequest.layout rfl rfl
  | listRequest => exact .codec ListRequest.layout rfl rfl
  | clusterRequest => exact .codec ClusterRequest.layout rfl rfl
  | clusterReply => exact .codec ClusterReply.layout rfl rfl

/-- The object with the given items under the names of their positions. -/
def keyed (r : RecordType) (items : List Json) : Json :=
  .obj (Layout.keyed r.names items)

/-- An array is read as the object with its items, if it is neither too long nor too short. -/
theorem read?_arr_eq_some_iff (r : RecordType) {items : List Json} {v : r.Value} :
    (Codec.of r.Value).read? (.arr items) = some v ↔
      Spans r.names r.defaulted items.length ∧
        (Codec.of r.Value).read? (r.keyed items) = some v := by
  have hl := r.laidOut
  have hn := r.nodup_names
  rw [keyed]
  generalize r.names = names at hl hn ⊢
  generalize r.defaulted = defaulted at hl ⊢
  generalize Codec.of r.Value = codec at hl ⊢
  cases hl with
  | codec layout hnames hdefaulted =>
      subst hnames hdefaulted
      have harr : layout.read? (.arr items) = layout.readItems? items := rfl
      simp only [Layout.codec, read?_obj _ (keyed_readable _ _), harr, Option.map_eq_some_iff,
        readItems?_eq_some_iff layout hn]
      constructor
      · rintro ⟨b, ⟨hspans, hb⟩, hv⟩
        exact ⟨hspans, b, hb, hv⟩
      · rintro ⟨hspans, b, hb, hv⟩
        exact ⟨b, ⟨hspans, hb⟩, hv⟩

end RecordType

/-- A place in a document: whoever has the first role looks at the document, and whoever has the
second one looks at what stands at the place. -/
inductive Place : Role → Role → (Json → Json) → Prop
  | here {role : Role} : Place role role fun doc => doc
  | member {role inner : Role} {place : Json → Json} (before after : List (Option String × Json))
      (name : Option String) (h : Place (role.ofMember name) inner place) :
      Place role inner fun doc => .obj (before ++ (name, place doc) :: after)
  | item {role inner : Role} {place : Json → Json} (before after : List Json)
      (h : Place (role.ofItem before.length) inner place) :
      Place role inner fun doc => .arr (before ++ place doc :: after)

/-- Whoever has the role refuses a document. -/
def Role.Refuses : Role → Json → Prop
  | record r, doc => (Codec.of r.Value).read? doc = none
  | value k, doc => ¬ k.Fits doc
  | unseen, _ => False

section Places

variable {role inner : Role} {place : Json → Json} {v w : Json}

theorem Place.ne_null (h : Place role inner place) (hv : v ≠ .null) : place v ≠ .null := by
  cases h with
  | here => exact hv
  | member => simp
  | item => simp

/-- What is the same at a place is the same as a whole. -/
theorem Place.same (h : Place role inner place) (hv : v ≠ .null) (hw : w ≠ .null)
    (hsame : inner.Same v w) : role.Same (place v) (place w) := by
  induction h with
  | here => exact hsame
  | member before after name h ih => exact same_member (h.ne_null hv) (h.ne_null hw) (ih hsame)
  | item before after h ih => exact same_item (ih hsame)

theorem Role.refuses_ofEntry {ρ : Type} {found : Option (RecordEntry ρ)}
    (h : (Role.ofEntry found).Refuses v) : ∃ e, found = some e ∧ ¬ e.kind.Fits v := by
  cases found with
  | none => cases h
  | some e => exact ⟨e, rfl, h⟩

/-- A member that is no value of its entry spoils the object. -/
theorem refuses_member {before after : List (Option String × Json)} {name : Option String}
    (h : (role.ofMember name).Refuses v) :
    role.Refuses (.obj (before ++ (name, v) :: after)) := by
  cases role with
  | record r =>
      cases name with
      | none => cases h
      | some name =>
          obtain ⟨e, hfind, hfits⟩ := Role.refuses_ofEntry h
          have he := List.mem_of_find?_eq_some hfind
          have hname : e.name = name := by simpa using List.find?_some hfind
          subst hname
          by_cases hn : NamesReadable (before ++ (some e.name, v) :: after)
          · refine Option.eq_none_iff_forall_ne_some.mpr fun x hx => hfits ?_
            have hreads := (read?_eq_some_iff r.follows hn).mp hx e he
            refine (e.reads_iff.mp ⟨_, hreads⟩).2.2 v ?_
            rw [valuesOf_append, valuesOf_cons_self]
            simp
          · exact read?_eq_none r.follows hn
  | value k => cases h
  | unseen => cases h

theorem readItems?_refused {ρ β : Type} {layout : Layout β} {fields : ρ → β}
    {entries : List (RecordEntry ρ)} (hf : layout.Follows fields entries) {before after : List Json}
    (h : (Role.ofEntry entries[before.length]?).Refuses v) :
    layout.readItems? (before ++ v :: after) = none := by
  induction hf generalizing before with
  | nil => cases h
  | cons hread _ ih =>
      cases before with
      | nil =>
          have hnone : _ = none :=
            Option.eq_none_iff_forall_ne_some.mpr fun x hx => h ⟨x, (hread v x).mp hx⟩
          simp only [List.nil_append, readItems?, hnone, Option.bind_eq_bind, Option.bind_none]
      | cons u before =>
          have hnone := ih (by simpa using h)
          simp [readItems?, hnone]

/-- An item that is no value of its entry spoils the array. -/
theorem refuses_item {before after : List Json} (h : (role.ofItem before.length).Refuses v) :
    role.Refuses (.arr (before ++ v :: after)) := by
  cases role with
  | record r =>
      have hf := r.follows
      simp only [Role.Refuses]
      generalize Codec.of r.Value = codec at hf
      cases hf with
      | codec layout hmake hfields hf =>
          simp only [Layout.codec, read?, readItems?_refused hf h, Option.map_none]
  | value k =>
      cases k with
      | list element =>
          intro hfits
          have hread := Kind.fits_list_iff.mp hfits v (by simp)
          rw [h] at hread
          cases hread
      | _ => cases h
  | unseen => cases h

/-- What is refused at a place is refused as a whole. -/
theorem Place.refuses (h : Place role inner place) (hrefused : inner.Refuses v) :
    role.Refuses (place v) := by
  induction h with
  | here => exact hrefused
  | member before after name h ih => exact refuses_member (ih hrefused)
  | item before after h ih => exact refuses_item (ih hrefused)

end Places

/-- The places of records in the list of an entry. -/
theorem place_listed {r q : RecordType} {e : RecordEntry r.Value} (he : e ∈ r.entries)
    (hkind : e.kind = .list q) (before after : List (Option String × Json))
    (others more : List Json) :
    Place (.record r) (.record q) fun doc =>
      .obj (before ++ (some e.name, .arr (others ++ doc :: more)) :: after) := by
  apply Place.member before after
  rw [Role.ofMember_entry he, hkind]
  exact .item others more .here

/-- At every place an array is read as the object with its items. -/
theorem read?_place_eq_some_iff {r q : RecordType} {place : Json → Json}
    (h : Place (.record r) (.record q) place) {items : List Json} {v : r.Value} :
    (Codec.of r.Value).read? (place (.arr items)) = some v ↔
      Spans q.names q.defaulted items.length ∧
        (Codec.of r.Value).read? (place (q.keyed items)) = some v := by
  by_cases hspans : Spans q.names q.defaulted items.length
  · have hsame : (Role.record q).Same (.arr items) (q.keyed items) := by
      refine Option.ext fun x => ?_
      rw [q.read?_arr_eq_some_iff, and_iff_right hspans]
    have hwhole := h.same (by simp) (by simp [RecordType.keyed]) hsame
    rw [Role.Same] at hwhole
    rw [hwhole, and_iff_right hspans]
  · have hnone : (Role.record q).Refuses (.arr items) :=
      Option.eq_none_iff_forall_ne_some.mpr fun x hx => hspans (q.read?_arr_eq_some_iff.mp hx).1
    have hwhole := h.refuses hnone
    rw [Role.Refuses] at hwhole
    rw [hwhole]
    exact iff_of_false (by simp) fun hv => hspans hv.1

/-- How a record is read from the arrays of JSON texts. -/
structure RecordType.ReadsByPosition (r : RecordType) : Prop where
  /-- An array is read as the object with its items under the names of their positions, if it has no
  more items than there are names and all names that it leaves out have a default. -/
  array : ∀ (items : List Json) (v : r.Value), (Codec.of r.Value).read? (.arr items) = some v ↔
    Spans r.names r.defaulted items.length ∧ (Codec.of r.Value).read? (r.keyed items) = some v
  /-- So is every array inside that stands for a record. -/
  inside : ∀ (q : RecordType) (place : Json → Json), Place (.record r) (.record q) place →
    ∀ (items : List Json) (v : r.Value), (Codec.of r.Value).read? (place (.arr items)) = some v ↔
      Spans q.names q.defaulted items.length ∧
        (Codec.of r.Value).read? (place (q.keyed items)) = some v
  /-- Among them are all items of the list of an entry. -/
  listed : ∀ e ∈ r.entries, ∀ q, e.kind = .list q →
    ∀ (before after : List (Option String × Json)) (others more : List Json),
      Place (.record r) (.record q) fun doc =>
        .obj (before ++ (some e.name, .arr (others ++ doc :: more)) :: after)
  /-- It is so with all texts that have the tokens of the two documents. -/
  text : ∀ (q : RecordType) (place : Json → Json), Place (.record r) (.record q) place →
    ∀ (items : List Json) (array object : String),
      lex? (Text.textPieces array) = some (place (.arr items)).tokens →
      lex? (Text.textPieces object) = some (place (q.keyed items)).tokens →
      ∀ v, decode? r.Value array = some v ↔
        Spans q.names q.defaulted items.length ∧ decode? r.Value object = some v
  /-- And so it is with byte strings. -/
  bytes : ∀ (q : RecordType) (place : Json → Json), Place (.record r) (.record q) place →
    ∀ (items : List Json) (array object : List UInt8),
      lex? (Text.pieces array) = some (place (.arr items)).tokens →
      lex? (Text.pieces object) = some (place (q.keyed items)).tokens →
      ∀ v, decodeBytes? r.Value array = some v ↔
        Spans q.names q.defaulted items.length ∧ decodeBytes? r.Value object = some v

section Texts

variable {α : Type} [Wire α] {doc : Json}

/-- A text is read as the document whose tokens it has. -/
theorem decode?_of_tokens {text : String} (h : lex? (Text.textPieces text) = some doc.tokens) :
    decode? α text = (Codec.of α).read? doc := by
  rw [decode?, parse?, ofPieces?, h, Option.bind_some, ofTokens?_tokens, Option.bind_some]

theorem decodeBytes?_of_tokens {bytes : List UInt8}
    (h : lex? (Text.pieces bytes) = some doc.tokens) :
    decodeBytes? α bytes = (Codec.of α).read? doc := by
  rw [decodeBytes?, ofBytes?, ofPieces?, h, Option.bind_some, ofTokens?_tokens, Option.bind_some]

end Texts

/-- Every record of the wire format is read by the positions of its entries as it is read by their
names, at every depth. -/
theorem record_readsByPosition (r : RecordType) : r.ReadsByPosition where
  array _ _ := r.read?_arr_eq_some_iff
  inside _ _ h _ _ := read?_place_eq_some_iff h
  listed _ he _ hkind := place_listed he hkind
  text q place h items array object harray hobject v := by
    rw [decode?_of_tokens harray, decode?_of_tokens hobject]
    exact read?_place_eq_some_iff h
  bytes q place h items array object harray hobject v := by
    rw [decodeBytes?_of_tokens harray, decodeBytes?_of_tokens hobject]
    exact read?_place_eq_some_iff h

/-- An option may be missing from an object, but not from an array. -/
example : (Codec.of StartRequest).read? (.arr [.text "1024"]) = none ∧
    (Codec.of StartRequest).read? (RecordType.startRequest.keyed [.text "1024"]) =
      some ⟨"1024", none, none⟩ :=
  ⟨rfl, rfl⟩

end LaunchDesk
