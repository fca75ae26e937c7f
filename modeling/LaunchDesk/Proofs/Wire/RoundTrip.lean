import LaunchDesk.Proofs.Json.Documents
import LaunchDesk.Proofs.Json.Numerals
import LaunchDesk.Proofs.Wire.Records
import LaunchDesk.Rehearsal

/-!
# What is written is read again

The text of a value is read as this value, but for a status that is spelled like a known one and is
read as the known one.

## Implementation notes

Each way to build a codec has one lemma, which says what becomes of a value on its way through a
document, and one which says that the document has a text. Numbers with a fraction take the one
hypothesis: that their shortest numeral is read as the number that it was written for.
-/

namespace LaunchDesk

open Decimal Json

/-- The numeral that is written for a number is read as this number. -/
def ReadsBack (x : Float) : Prop :=
  Codec.amount.read? (Codec.amount.write x) = some x

instance (x : Float) : Decidable (ReadsBack x) :=
  inferInstanceAs (Decidable (_ = _))

section Codecs

variable {α β : Type}

/-- A value becomes another one on its way through a document. -/
def Codec.Carries (codec : Codec α) (a b : α) : Prop :=
  codec.read? (codec.write a) = some b

/-- All values have documents that have a text. -/
def Codec.Written (codec : Codec α) : Prop :=
  ∀ a, LegibleDoc (codec.write a)

theorem carries_string (s : String) : Codec.string.Carries s s := rfl

theorem written_string : Codec.string.Written := legibleDoc_text

theorem carries_bool (b : Bool) : Codec.bool.Carries b b := rfl

theorem written_bool : Codec.bool.Written := legibleDoc_bool

theorem carries_count (n : UInt32) : Codec.count.Carries n n := by
  have hlt : n.toNat < UInt32.size := n.toNat_lt
  simp [Codec.Carries, Codec.count, Json.nat, Numeral.nat?_ofNat, hlt]

theorem written_count : Codec.count.Written := fun n => legibleDoc_num (tidy_digitsOf n.toNat)

theorem carries_amount {x : Float} (h : ReadsBack x) : Codec.amount.Carries x x := h

theorem written_amount : Codec.amount.Written := by
  intro x
  unfold Codec.amount
  simp only
  split
  · exact legibleDoc_num (tidy_whole_ofFloat Codec.numberStyle x)
  · exact legibleDoc_null

/-- A value and the lack of one stay apart, as no text is written like the lack of one. -/
theorem carries_optional_string (s : Option String) : Codec.string.optional.Carries s s := by
  cases s with
  | none => rfl
  | some s => rfl

theorem written_optional {codec : Codec α} (h : codec.Written) : codec.optional.Written
  | none => legibleDoc_null
  | some a => h a

theorem carries_list {codec : Codec α} {f : α → α} {as : List α}
    (h : ∀ a ∈ as, codec.Carries a (f a)) : codec.list.Carries as (as.map f) := by
  induction as with
  | nil => rfl
  | cons a as ih =>
      obtain ⟨ha, has⟩ := List.forall_mem_cons.mp h
      have hrest : (as.map codec.write).mapM codec.read? = some (as.map f) := ih has
      have hfirst : codec.read? (codec.write a) = some (f a) := ha
      simp [Codec.Carries, Codec.list, hfirst, hrest]

theorem written_list {codec : Codec α} (h : codec.Written) : codec.list.Written := by
  intro as
  apply legibleDoc_arr
  intro v hv
  obtain ⟨a, -, rfl⟩ := List.mem_map.mp hv
  exact h a

/-- A value of a field becomes another one on its way through the members of an object. -/
def Field.Carries (f : Field α) (a b : α) : Prop :=
  if f.unwritten a then f.missing.inObject? = some b else f.codec.Carries a b

theorem carries_required {name : String} {codec : Codec α} {a b : α} (h : codec.Carries a b) :
    (Field.required name codec).Carries a b := h

theorem carries_default {name : String} {codec : Codec α} {value a b : α}
    (h : codec.Carries a b) : (Field.default name codec value).Carries a b := h

/-- A value that is not there is left out, and is not there again. -/
theorem carries_unlessNone (name : String) (s : Option String) :
    (Field.unlessNone name .string).Carries s s := by
  cases s with
  | none => rfl
  | some s => rfl

namespace Layout

/-- The values of the fields become others on their way through the members of an object. -/
def Carries : {α : Type} → Layout α → α → α → Prop
  | _, .nil, _, _ => True
  | _, .cons f rest, (a, as), (b, bs) => f.Carries a b ∧ rest.Carries as bs

/-- All fields have values that have a text. -/
def Written : {α : Type} → Layout α → Prop
  | _, .nil => True
  | _, .cons f rest => f.codec.Written ∧ rest.Written

theorem name_mem_of_mem_writeMembers (layout : Layout α) (as : α) :
    ∀ m ∈ layout.writeMembers as, m.1 ∈ layout.names := by
  induction layout with
  | nil => simp [writeMembers]
  | cons f rest ih =>
      obtain ⟨a, as⟩ := as
      intro m hm
      rw [writeMembers, List.mem_append] at hm
      rcases hm with hm | hm
      · split at hm
        · simp at hm
        · obtain rfl := List.mem_singleton.mp hm
          exact List.mem_cons_self
      · exact List.mem_cons_of_mem _ (ih as m hm)

theorem valuesOf_writeMembers_eq_nil (layout : Layout α) (as : α) {name : String}
    (h : name ∉ layout.names) : valuesOf name (named (layout.writeMembers as)) = [] := by
  apply valuesOf_eq_nil
  intro m hm
  obtain ⟨n, hn, rfl⟩ := List.mem_map.mp hm
  rintro ⟨⟩
  exact h (name_mem_of_mem_writeMembers layout as n hn)

/-- The members of the first field, if it is written. -/
theorem readMember?_written {f : Field α} {a b : α} (h : f.Carries a b)
    {more : List (Option String × Json)} (hmore : valuesOf f.name more = []) :
    f.readMember? (named (if f.unwritten a then [] else [(f.name, f.codec.write a)]) ++ more) =
      some b := by
  unfold Field.Carries at h
  unfold Field.readMember?
  split at h
  · next hu =>
      rw [if_pos hu]
      simpa [named, hmore] using h
  · next hu =>
      rw [if_neg hu]
      simpa [named, valuesOf_cons_self, hmore, Codec.Carries] using h

theorem readMembers?_writeMembers (layout : Layout α) (hn : layout.names.Nodup) {as bs : α}
    (h : layout.Carries as bs) :
    layout.readMembers? (named (layout.writeMembers as)) = some bs := by
  induction layout with
  | nil => rfl
  | cons f rest ih =>
      obtain ⟨a, as⟩ := as
      obtain ⟨b, bs⟩ := bs
      obtain ⟨hf, hrest⟩ := h
      obtain ⟨hnew, hnodup⟩ := List.nodup_cons.mp hn
      have hmembers : named ((Layout.cons f rest).writeMembers (a, as)) =
          named (if f.unwritten a then [] else [(f.name, f.codec.write a)]) ++
            named (rest.writeMembers as) := by
        simp [named, writeMembers]
      have hfirst := readMember?_written hf (valuesOf_writeMembers_eq_nil rest as hnew)
      have hothers : rest.readMembers? (named ((Layout.cons f rest).writeMembers (a, as))) =
          some bs := by
        rw [← ih hnodup hrest]
        apply readMembers?_congr
        intro name hname
        have hne : name ≠ f.name := fun he => hnew (he ▸ hname)
        rw [hmembers, valuesOf_append]
        split
        · rfl
        · rw [named, List.map_singleton, valuesOf_cons_of_ne (by simpa using hne.symm)]
          rfl
      rw [readMembers?, hothers, hmembers, hfirst]
      rfl

theorem namesReadable_named (members : List (String × Json)) : NamesReadable (named members) := by
  intro m hm
  obtain ⟨n, -, rfl⟩ := List.mem_map.mp hm
  rfl

/-- A record whose fields become others becomes the record of the others. -/
theorem carries_codec (layout : Layout β) {make : β → α} {fields : α → β}
    (hn : layout.names.Nodup) (hmake : ∀ a, make (fields a) = a) {a b : α}
    (h : layout.Carries (fields a) (fields b)) : (layout.codec make fields).Carries a b := by
  have hread := readMembers?_writeMembers layout hn h
  have hobj := layout.read?_obj (namesReadable_named (layout.writeMembers (fields a)))
  simp only [Codec.Carries, Layout.codec, Json.record]
  rw [← named, hobj, hread, Option.map_some, hmake]

theorem legible_writeMembers (layout : Layout β) (h : layout.Written) (as : β) :
    ∀ m ∈ layout.writeMembers as, LegibleDoc m.2 := by
  induction layout with
  | nil => simp [writeMembers]
  | cons f rest ih =>
      obtain ⟨a, as⟩ := as
      intro m hm
      rw [writeMembers, List.mem_append] at hm
      rcases hm with hm | hm
      · split at hm
        · simp at hm
        · obtain rfl := List.mem_singleton.mp hm
          exact h.1 a
      · exact ih h.2 as m hm

theorem written_codec {layout : Layout β} {make : β → α} {fields : α → β} (h : layout.Written) :
    (layout.codec make fields).Written := fun a =>
  legibleDoc_record (legible_writeMembers layout h (fields a))

end Layout

end Codecs

namespace StartStatus

/-- The statuses whose words are known. -/
def known : List StartStatus :=
  [invalid, blocked, queued, bindCreditCardFirst, creditCardQueryFailed, submitted, launched]

/-- A status as it is read: a word that belongs to a known status does not stay unrecognized. -/
def settled : StartStatus → StartStatus
  | unrecognized w => (known.find? fun t => t.word = w).getD (unrecognized w)
  | s => s

/-- A word is read as the known status of this word, or else kept. -/
theorem ofWord_eq (w : String) : ofWord w = (unrecognized w).settled := by
  unfold ofWord settled known
  simp only [List.find?_cons, word, eq_comm (b := w)]
  split_ifs with h1 h2 h3 h4 h5 h6 h7
  · simp [h1]
  · simp [h2]
  · simp [h3]
  · simp [h4]
  · simp [h5]
  · simp [h6]
  · simp [h7]
  · simp [h1, h2, h3, h4, h5, h6, h7]

theorem ofWord_word (s : StartStatus) : ofWord s.word = s.settled := by
  cases s with
  | unrecognized w => exact ofWord_eq w
  | _ => rfl

end StartStatus

section Values

/-- The numbers with a fraction in a machine. -/
def Machine.amounts (m : Machine) : List Float :=
  [m.memory, m.cost]

/-- The numbers with a fraction in a job record. -/
def JobRecord.amounts (r : JobRecord) : List Float :=
  [r.hours, r.cost]

/-- The offer with its status as it is read. -/
def Offer.settled (o : Offer) : Offer :=
  { o with status := o.status.settled }

namespace RecordType

/-- The numbers with a fraction in a record. -/
def amounts : (r : RecordType) → r.Value → List Float
  | offer, v => v.machines.flatMap Machine.amounts
  | machine, v => v.amounts
  | jobRecord, v => v.amounts
  | jobList, v => v.jobs.flatMap JobRecord.amounts
  | clusterRequest, v => v.machines.flatMap Machine.amounts
  | receipt, _ | scheduleRequest, _ | startRequest, _ | stopRequest, _ | listRequest, _
  | clusterReply, _ => []

/-- A record as it is read. -/
def settled : (r : RecordType) → r.Value → r.Value
  | offer, v => v.settled
  | machine, v | receipt, v | jobRecord, v | jobList, v | scheduleRequest, v | startRequest, v
  | stopRequest, v | listRequest, v | clusterRequest, v | clusterReply, v => v

end RecordType

namespace WireType

/-- The numbers with a fraction in a value. -/
def amounts : (t : WireType) → t.Value → List Float
  | record r, v => r.amounts v
  | status, _ | platform, _ => []

/-- A value as it is read. -/
def settled : (t : WireType) → t.Value → t.Value
  | record r, v => r.settled v
  | status, v => v.settled
  | platform, v => v

end WireType

open Layout

theorem carries_machine {m : Machine} (h : ∀ x ∈ m.amounts, ReadsBack x) :
    (Codec.of Machine).Carries m m := by
  have hmemory : ReadsBack m.memory := h _ (by simp [Machine.amounts])
  have hcost : ReadsBack m.cost := h _ (by simp [Machine.amounts])
  apply carries_codec Machine.layout (by decide) (fun _ => rfl)
  exact ⟨carries_default (carries_string _), carries_default (carries_string _),
    carries_default (carries_count _), carries_default (carries_amount hmemory),
    carries_default (carries_string _), carries_default (carries_count _),
    carries_default (carries_string _), carries_default (carries_amount hcost), trivial⟩

theorem carries_machines {ms : List Machine} (h : ∀ x ∈ ms.flatMap Machine.amounts, ReadsBack x) :
    (Codec.of Machine).list.Carries ms ms := by
  simpa using carries_list (f := id) fun m hm =>
    carries_machine fun x hx => h x (List.mem_flatMap.mpr ⟨m, hm, hx⟩)

theorem carries_status (s : StartStatus) : (Codec.of StartStatus).Carries s s.settled :=
  congrArg some (StartStatus.ofWord_word s)

theorem carries_platform (p : Platform) : (Codec.of Platform).Carries p p := by
  cases p
  rfl

theorem carries_jobRecord {r : JobRecord} (h : ∀ x ∈ r.amounts, ReadsBack x) :
    (Codec.of JobRecord).Carries r r := by
  have hhours : ReadsBack r.hours := h _ (by simp [JobRecord.amounts])
  have hcost : ReadsBack r.cost := h _ (by simp [JobRecord.amounts])
  apply carries_codec JobRecord.layout (by decide) (fun _ => rfl)
  exact ⟨carries_default (carries_string _), carries_required (carries_string _),
    carries_default (carries_string _), carries_default (carries_string _),
    carries_default (carries_amount hhours), carries_default (carries_amount hcost), trivial⟩

theorem carries_jobs {rs : List JobRecord} (h : ∀ x ∈ rs.flatMap JobRecord.amounts, ReadsBack x) :
    (Codec.of JobRecord).list.Carries rs rs := by
  simpa using carries_list (f := id) fun r hr =>
    carries_jobRecord fun x hx => h x (List.mem_flatMap.mpr ⟨r, hr, hx⟩)

/-- Records survive their way through a document, up to the status of an offer. -/
theorem carries_record (r : RecordType) (v : r.Value) (h : ∀ x ∈ r.amounts v, ReadsBack x) :
    (Codec.of r.Value).Carries v (r.settled v) := by
  cases r with
  | offer =>
      apply carries_codec Offer.layout (by decide) (fun _ => rfl)
      exact ⟨carries_default (carries_string _), carries_default (carries_string _),
        carries_default (carries_status _), carries_default (carries_optional_string _),
        carries_default (carries_machines h), carries_default (carries_optional_string _),
        carries_default (carries_optional_string _), carries_default (carries_optional_string _),
        trivial⟩
  | machine => exact carries_machine h
  | receipt =>
      apply carries_codec Receipt.layout (by decide) (fun _ => rfl)
      exact ⟨carries_default (carries_string _), carries_default (carries_string _),
        carries_default (carries_optional_string _), carries_default (carries_optional_string _),
        carries_default (carries_optional_string _), carries_default (carries_optional_string _),
        trivial⟩
  | jobRecord => exact carries_jobRecord h
  | jobList =>
      apply carries_codec JobList.layout (by decide) (fun _ => rfl)
      exact ⟨carries_default (carries_jobs h), trivial⟩
  | scheduleRequest =>
      apply carries_codec ScheduleRequest.layout (by decide) (fun _ => rfl)
      exact ⟨carries_required (carries_string _), carries_required (carries_string _),
        carries_unlessNone _ _, carries_unlessNone _ _, trivial⟩
  | startRequest =>
      apply carries_codec StartRequest.layout (by decide) (fun _ => rfl)
      exact ⟨carries_required (carries_string _), carries_unlessNone _ _, carries_unlessNone _ _,
        trivial⟩
  | stopRequest =>
      apply carries_codec StopRequest.layout (by decide) (fun _ => rfl)
      exact ⟨carries_required (carries_string _), carries_required (carries_platform _), trivial⟩
  | listRequest =>
      apply carries_codec ListRequest.layout (by decide) (fun _ => rfl)
      exact ⟨carries_required (carries_string _), carries_required (carries_platform _),
        carries_unlessNone _ _, trivial⟩
  | clusterRequest =>
      apply carries_codec ClusterRequest.layout (by decide) (fun _ => rfl)
      exact ⟨carries_required (carries_string _), carries_required (carries_machines h), trivial⟩
  | clusterReply =>
      apply carries_codec ClusterReply.layout (by decide) (fun _ => rfl)
      exact ⟨carries_default (carries_bool _), trivial⟩

theorem carries_wire (t : WireType) (v : t.Value) (h : ∀ x ∈ t.amounts v, ReadsBack x) :
    (Codec.of t.Value).Carries v (t.settled v) := by
  cases t with
  | record r => exact carries_record r v h
  | status => exact carries_status v
  | platform => exact carries_platform v

theorem written_machine : (Codec.of Machine).Written :=
  written_codec ⟨written_string, written_string, written_count, written_amount, written_string,
    written_count, written_string, written_amount, trivial⟩

theorem written_status : (Codec.of StartStatus).Written := fun s => legibleDoc_text s.word

theorem written_platform : (Codec.of Platform).Written := fun p => legibleDoc_text p.name

theorem written_jobRecord : (Codec.of JobRecord).Written :=
  written_codec ⟨written_string, written_string, written_string, written_string, written_amount,
    written_amount, trivial⟩

theorem written_record (r : RecordType) : (Codec.of r.Value).Written := by
  have htext : Codec.string.optional.Written := written_optional written_string
  have hmachines : (Codec.of Machine).list.Written := written_list written_machine
  cases r with
  | offer =>
      exact written_codec ⟨written_string, written_string, written_status, htext, hmachines, htext,
        htext, htext, trivial⟩
  | machine => exact written_machine
  | receipt =>
      exact written_codec ⟨written_string, written_string, htext, htext, htext, htext, trivial⟩
  | jobRecord => exact written_jobRecord
  | jobList => exact written_codec ⟨written_list written_jobRecord, trivial⟩
  | scheduleRequest =>
      exact written_codec ⟨written_string, written_string, htext, htext, trivial⟩
  | startRequest => exact written_codec ⟨written_string, htext, htext, trivial⟩
  | stopRequest => exact written_codec ⟨written_string, written_platform, trivial⟩
  | listRequest => exact written_codec ⟨written_string, written_platform, htext, trivial⟩
  | clusterRequest => exact written_codec ⟨written_string, hmachines, trivial⟩
  | clusterReply => exact written_codec ⟨written_bool, trivial⟩

theorem written_wire (t : WireType) : (Codec.of t.Value).Written := by
  cases t with
  | record r => exact written_record r
  | status => exact written_status
  | platform => exact written_platform

end Values

section Texts

/-- The text of a document that can be written holds the value of the document. -/
theorem decode?_render (α : Type) [Wire α] {doc : Json} (h : LegibleDoc doc) :
    decode? α doc.render = (Codec.of α).read? doc := by
  rw [decode?, parse?_render h, Option.bind_some]

theorem decode?_encode_of_readsBack (t : WireType) (v : t.Value)
    (h : ∀ x ∈ t.amounts v, ReadsBack x) : decode? t.Value (encode v) = some (t.settled v) := by
  rw [encode, decode?_render t.Value (written_wire t v)]
  exact carries_wire t v h

/-- Values with one text are read as the same value. -/
theorem settled_eq_of_encode_eq (t : WireType) {v w : t.Value} (hv : ∀ x ∈ t.amounts v, ReadsBack x)
    (hw : ∀ x ∈ t.amounts w, ReadsBack x) (h : encode v = encode w) :
    t.settled v = t.settled w := by
  have hread := decode?_encode_of_readsBack t v hv
  rw [h, decode?_encode_of_readsBack t w hw] at hread
  exact (Option.some.inj hread).symm

/-- Every word is read as a status, and the status is written as the word. -/
theorem decode?_word (w : String) : decode? StartStatus (Json.text w).render = some (.ofWord w) :=
  decode?_render StartStatus (legibleDoc_text w)

theorem encode_ofWord (w : String) : encode (StartStatus.ofWord w) = (Json.text w).render := by
  have hwrite : (Codec.of StartStatus).write (.ofWord w) = Json.text (StartStatus.ofWord w).word :=
    rfl
  rw [encode, hwrite, StartStatus.word_ofWord]

/-- What is written is read again: every value from its text, with none but the words of known
statuses read as another value. So no two values that are read apart share a text; a request whose
optional fields are not written has none; and a status is written as the word it was read from. -/
theorem wire_roundTrip :
    (∀ (t : WireType) (v : t.Value), (∀ x ∈ t.amounts v, ReadsBack x) →
      decode? t.Value (encode v) = some (t.settled v)) ∧
    (∀ (t : WireType) (v w : t.Value), (∀ x ∈ t.amounts v, ReadsBack x) →
      (∀ x ∈ t.amounts w, ReadsBack x) → encode v = encode w → t.settled v = t.settled w) ∧
    (∀ fileName definition : String,
      decode? ScheduleRequest (Json.record
        [("job_file_name", .text fileName), ("job_yaml", .text definition)]).render =
          some ⟨fileName, definition, none, none⟩) ∧
    (∀ jobId : String, decode? StartRequest (Json.record [("job_id", .text jobId)]).render =
      some ⟨jobId, none, none⟩) ∧
    (∀ project : String,
      decode? ListRequest (Json.record
        [("project_name", .text project), ("platform", .text "FALCON")]).render =
          some ⟨project, .falcon, none⟩) ∧
    (∀ w : String, ∃ s : StartStatus, decode? StartStatus (Json.text w).render = some s ∧
      s.word = w ∧ encode s = (Json.text w).render) := by
  -- Absent options are not written, so the three bare requests are texts of values as well.
  refine ⟨decode?_encode_of_readsBack, fun t v w => settled_eq_of_encode_eq t, ?_, ?_, ?_, ?_⟩
  · intro fileName definition
    exact decode?_encode_of_readsBack (.record .scheduleRequest) ⟨fileName, definition, none, none⟩
      (by simp [WireType.amounts, RecordType.amounts])
  · intro jobId
    exact decode?_encode_of_readsBack (.record .startRequest) ⟨jobId, none, none⟩
      (by simp [WireType.amounts, RecordType.amounts])
  · intro project
    exact decode?_encode_of_readsBack (.record .listRequest) ⟨project, .falcon, none⟩
      (by simp [WireType.amounts, RecordType.amounts])
  · intro w
    exact ⟨.ofWord w, decode?_word w, StartStatus.word_ofWord w, encode_ofWord w⟩

/-- An offer whose status is spelled like a known one is read with the known one. -/
theorem wire_roundTrip_sample :
    decode? Offer (encode (Offer.sample (.unrecognized "LAUNCHED"))) =
      some (Offer.sample .launched) := by
  apply wire_roundTrip.1 (.record .offer) (Offer.sample (.unrecognized "LAUNCHED"))
  intro x hx
  have hamounts : x = 64.0 * Float.ofNat 1 ∨ x = 1.5 * Float.ofNat 1 := by
    simpa [WireType.amounts, RecordType.amounts, Machine.amounts, Offer.sample, Machine.sample]
      using hx
  rcases hamounts with rfl | rfl
  · decide +kernel
  · decide +kernel

end Texts

end LaunchDesk
