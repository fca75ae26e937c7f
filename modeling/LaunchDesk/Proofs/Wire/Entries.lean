import LaunchDesk.Proofs.Wire.Records

/-!
# The entries of a record

A table of every record that is exchanged: the names it knows, what a value under a name must look
like, and what stands in for a name that is missing. A layout reads the members of an object as the
table says, entry by entry.

## Implementation notes

The table says nothing about how a record is read. Each kind of entry says which documents hold
which values; a layout follows a list of entries if, field by field, its codec reads the documents
that the kind names and its stand-in is that of the entry.
-/

namespace LaunchDesk

open Json

/-- What a value of a record looks like. -/
inductive Kind where
  | text
  | count
  | amount
  | flag
  | status
  | platform
  /-- A text or nothing. -/
  | option
  /-- A list of records of one type. -/
  | list (element : RecordType)
  deriving DecidableEq, Repr

namespace Kind

/-- The values of a kind. -/
@[reducible] def Value : Kind → Type
  | text => String
  | count => UInt32
  | amount => Float
  | flag => Bool
  | status => StartStatus
  | platform => Platform
  | option => Option String
  | list element => List element.Value

/-- Whether a document holds a value of a kind. -/
def Holds : (k : Kind) → Json → k.Value → Prop
  | text, doc, s => doc = .text s
  | count, doc, n => ∃ numeral, doc = .num numeral ∧ numeral.nat? = some n.toNat
  | amount, doc, x => ∃ numeral, doc = .num numeral ∧ numeral.float? = some x
  | flag, doc, b => doc = .bool b
  | status, doc, s => ∃ w, doc = .text w ∧ s = .ofWord w
  | platform, doc, p => doc = .text p.name ∨ doc = .obj [(some p.name, .null)]
  | option, doc, s => doc = Json.text? s
  | list element, doc, vs =>
      ∃ items, doc = .arr items ∧ items.map (Codec.of element.Value).read? = vs.map some

/-- Whether a document holds any value of a kind. -/
def Fits (k : Kind) (doc : Json) : Prop :=
  ∃ x, k.Holds doc x

/-- A codec that reads the values of a kind from the documents that hold them. -/
def Reads (k : Kind) (codec : Codec k.Value) : Prop :=
  ∀ doc x, codec.read? doc = some x ↔ k.Holds doc x

section Reads

theorem reads_text : text.Reads .string := by
  intro doc s
  cases doc with
  | str t => simp [Codec.string, asText?, Holds, Json.text]
  | _ => simp [Codec.string, asText?, Holds, Json.text]

theorem reads_count : count.Reads .count := by
  intro doc n
  cases doc with
  | num numeral =>
      simp only [Codec.count, Holds, Json.num.injEq, exists_eq_left', Option.bind_eq_some_iff]
      constructor
      · rintro ⟨k, hk, h⟩
        split at h
        · next hlt =>
            obtain rfl := Option.some.inj h
            rw [hk, UInt32.toNat_ofNat_of_lt' hlt]
        · cases h
      · intro h
        have hlt : n.toNat < UInt32.size := n.toNat_lt
        exact ⟨n.toNat, h, by simp [hlt]⟩
  | _ => simp [Codec.count, Holds]

theorem reads_amount : amount.Reads .amount := by
  intro doc x
  cases doc with
  | num numeral => simp [Codec.amount, Holds]
  | _ => simp [Codec.amount, Holds]

theorem reads_flag : flag.Reads .bool := by
  intro doc b
  cases doc with
  | bool c => simp [Codec.bool, Holds]
  | _ => simp [Codec.bool, Holds]

theorem reads_status : status.Reads (Codec.of StartStatus) := by
  intro doc s
  have hread : (Codec.of StartStatus).read? doc = doc.asText?.map StartStatus.ofWord := rfl
  rw [hread]
  cases doc with
  | str t => cases t <;> simp [asText?, Holds, Json.text, eq_comm]
  | _ => simp [asText?, Holds, Json.text]

theorem reads_platform : platform.Reads (Codec.of Platform) := by
  intro doc p
  cases p
  simp only [Codec.of, Wire.codec, Holds, Json.text]
  split
  · simp
  · simp
  · simp_all

theorem reads_option : option.Reads Codec.string.optional := by
  intro doc s
  cases doc with
  | null => cases s <;> simp [Codec.optional, Holds, Json.text?, Json.text]
  | str t => cases s <;> simp [Codec.optional, Codec.string, asText?, Holds, Json.text?, Json.text]
  | _ => cases s <;> simp [Codec.optional, Codec.string, asText?, Holds, Json.text?, Json.text]

theorem mapM_eq_some_iff {α β : Type} {f : α → Option β} {as : List α} {bs : List β} :
    as.mapM f = some bs ↔ as.map f = bs.map some := by
  induction as generalizing bs with
  | nil => cases bs <;> simp
  | cons a as ih =>
      cases bs with
      | nil => simp [Option.bind_eq_some_iff]
      | cons b bs =>
          rw [List.map_cons, List.map_cons, List.cons.injEq, ← ih]
          simp [Option.bind_eq_some_iff]

theorem reads_list (element : RecordType) :
    (list element).Reads (Codec.of element.Value).list := by
  intro doc vs
  cases doc with
  | arr items => simp [Codec.list, Holds, mapM_eq_some_iff]
  | _ => simp [Codec.list, Holds]

end Reads

/-- A list is a value if each of its items is; one bad item spoils it. -/
theorem fits_list_iff {element : RecordType} {items : List Json} :
    (list element).Fits (.arr items) ↔
      ∀ item ∈ items, ((Codec.of element.Value).read? item).isSome := by
  constructor
  · rintro ⟨vs, items', hitems, hread⟩ item hitem
    obtain rfl := Json.arr.inj hitems
    have hmem : (Codec.of element.Value).read? item ∈ vs.map some := by
      rw [← hread]
      exact List.mem_map_of_mem hitem
    obtain ⟨v, -, hv⟩ := List.mem_map.mp hmem
    rw [← hv]
    rfl
  · intro h
    refine ⟨items.pmap (fun item hitem => ((Codec.of element.Value).read? item).get hitem) h, items,
      rfl, ?_⟩
    rw [List.map_pmap]
    simp [List.pmap_eq_map]

end Kind

/-- An entry of a record. -/
structure RecordEntry (ρ : Type) where
  /-- The name under which an object has its value. -/
  name : String
  /-- What its values look like. -/
  kind : Kind
  /-- What stands in for it in an object that lacks it; without, it is required. -/
  standIn? : Option kind.Value
  /-- Its value in a record. -/
  value : ρ → kind.Value

namespace RecordType

/-- The entries of a record. -/
def entries : (r : RecordType) → List (RecordEntry r.Value)
  | offer =>
      [⟨"job_id", .text, some "", Offer.jobId⟩,
       ⟨"job_url", .text, some "", Offer.jobUrl⟩,
       ⟨"status", .status, some .submitted, Offer.status⟩,
       ⟨"message", .option, some none, Offer.message⟩,
       ⟨"gpu_matched", .list .machine, some [], Offer.machines⟩,
       ⟨"cluster_id", .option, some none, Offer.clusterId⟩,
       ⟨"project_name", .option, some none, Offer.projectName⟩,
       ⟨"job_name", .option, some none, Offer.jobName⟩]
  | machine =>
      [⟨"gpu_provider", .text, some "", Machine.provider⟩,
       ⟨"gpu_instance", .text, some "", Machine.instanceType⟩,
       ⟨"cpu_count", .count, some 0, Machine.vcpus⟩,
       ⟨"mem_size", .amount, some 0, Machine.memory⟩,
       ⟨"gpu_type", .text, some "", Machine.accelerator⟩,
       ⟨"gpu_num", .count, some 0, Machine.acceleratorCount⟩,
       ⟨"gpu_region", .text, some "", Machine.region⟩,
       ⟨"cost", .amount, some 0, Machine.cost⟩]
  | receipt =>
      [⟨"job_id", .text, some "", Receipt.jobId⟩,
       ⟨"job_url", .text, some "", Receipt.jobUrl⟩,
       ⟨"project_name", .option, some none, Receipt.projectName⟩,
       ⟨"job_name", .option, some none, Receipt.jobName⟩,
       ⟨"status", .option, some none, Receipt.status⟩,
       ⟨"message", .option, some none, Receipt.message⟩]
  | jobRecord =>
      [⟨"job_name", .text, some "", JobRecord.jobName⟩,
       ⟨"job_id", .text, none, JobRecord.jobId⟩,
       ⟨"status", .text, some "", JobRecord.status⟩,
       ⟨"started_time", .text, some "", JobRecord.startedAt⟩,
       ⟨"compute_duration", .amount, some 0, JobRecord.hours⟩,
       ⟨"cost", .amount, some 0, JobRecord.cost⟩]
  | jobList => [⟨"job_list", .list .jobRecord, some [], JobList.jobs⟩]
  | scheduleRequest =>
      [⟨"job_file_name", .text, none, ScheduleRequest.fileName⟩,
       ⟨"job_yaml", .text, none, ScheduleRequest.definition⟩,
       ⟨"group_id", .option, some none, ScheduleRequest.groupId⟩,
       ⟨"cluster_name", .option, some none, ScheduleRequest.clusterName⟩]
  | startRequest =>
      [⟨"job_id", .text, none, StartRequest.jobId⟩,
       ⟨"project_name", .option, some none, StartRequest.projectName⟩,
       ⟨"job_name", .option, some none, StartRequest.jobName⟩]
  | stopRequest =>
      [⟨"job_id", .text, none, StopRequest.jobId⟩,
       ⟨"platform", .platform, none, StopRequest.platform⟩]
  | listRequest =>
      [⟨"project_name", .text, none, ListRequest.projectName⟩,
       ⟨"platform", .platform, none, ListRequest.platform⟩,
       ⟨"job_id", .option, some none, ListRequest.jobId⟩]
  | clusterRequest =>
      [⟨"cluster_id", .text, none, ClusterRequest.clusterId⟩,
       ⟨"gpu_matched", .list .machine, none, ClusterRequest.machines⟩]
  | clusterReply => [⟨"confirmed", .flag, some false, ClusterReply.confirmed⟩]

/-- The names that a record knows. -/
def names (r : RecordType) : List String :=
  r.entries.map RecordEntry.name

/-- The names that an object must have. -/
def required : RecordType → List String
  | jobRecord => ["job_id"]
  | scheduleRequest => ["job_file_name", "job_yaml"]
  | startRequest => ["job_id"]
  | stopRequest => ["job_id", "platform"]
  | listRequest => ["project_name", "platform"]
  | clusterRequest => ["cluster_id", "gpu_matched"]
  | offer | machine | receipt | jobList | clusterReply => []

theorem nodup_names (r : RecordType) : r.names.Nodup := by
  cases r <;> decide

end RecordType

/-- A layout follows a list of entries: field by field it has the name of the entry, a codec that
reads the documents of its kind, and its stand-in. -/
inductive Layout.Follows {ρ : Type} : {β : Type} → Layout β → (ρ → β) → List (RecordEntry ρ) → Prop
  | nil {fields : ρ → Unit} : Follows .nil fields []
  | cons {k : Kind} {name : String} {codec : Codec k.Value} {missing : Missing k.Value}
      {unwritten : k.Value → Bool} {β : Type} {rest : Layout β} {fields : ρ → k.Value × β}
      {entries : List (RecordEntry ρ)} (hread : k.Reads codec)
      (hrest : Follows rest (fun v => (fields v).2) entries) :
      Follows (.cons ⟨name, codec, missing, unwritten⟩ rest) fields
        (⟨name, k, missing.inObject?, fun v => (fields v).1⟩ :: entries)

/-- A codec of records that follows a list of entries. -/
inductive Codec.Follows {ρ : Type} (entries : List (RecordEntry ρ)) : Codec ρ → Prop
  | codec {β : Type} (layout : Layout β) {make : β → ρ} {fields : ρ → β}
      (hmake : ∀ v, make (fields v) = v) (hfields : ∀ b, fields (make b) = b)
      (h : layout.Follows fields entries) : Follows entries (layout.codec make fields)

open Kind Layout.Follows in
/-- The records are read as the table says. -/
theorem RecordType.follows (r : RecordType) : (Codec.of r.Value).Follows r.entries := by
  cases r with
  | offer =>
      refine .codec Offer.layout (fun _ => rfl) (fun _ => rfl) ?_
      exact cons reads_text <| cons reads_text <| cons reads_status <| cons reads_option <|
        cons (reads_list .machine) <| cons reads_option <| cons reads_option <|
        cons reads_option nil
  | machine =>
      refine .codec Machine.layout (fun _ => rfl) (fun _ => rfl) ?_
      exact cons reads_text <| cons reads_text <| cons reads_count <| cons reads_amount <|
        cons reads_text <| cons reads_count <| cons reads_text <| cons reads_amount nil
  | receipt =>
      refine .codec Receipt.layout (fun _ => rfl) (fun _ => rfl) ?_
      exact cons reads_text <| cons reads_text <| cons reads_option <| cons reads_option <|
        cons reads_option <| cons reads_option nil
  | jobRecord =>
      refine .codec JobRecord.layout (fun _ => rfl) (fun _ => rfl) ?_
      exact cons reads_text <| cons reads_text <| cons reads_text <| cons reads_text <|
        cons reads_amount <| cons reads_amount nil
  | jobList =>
      refine .codec JobList.layout (fun _ => rfl) (fun _ => rfl) ?_
      exact cons (reads_list .jobRecord) nil
  | scheduleRequest =>
      refine .codec ScheduleRequest.layout (fun _ => rfl) (fun _ => rfl) ?_
      exact cons reads_text <| cons reads_text <| cons reads_option <| cons reads_option nil
  | startRequest =>
      refine .codec StartRequest.layout (fun _ => rfl) (fun _ => rfl) ?_
      exact cons reads_text <| cons reads_option <| cons reads_option nil
  | stopRequest =>
      refine .codec StopRequest.layout (fun _ => rfl) (fun _ => rfl) ?_
      exact cons reads_text <| cons reads_platform nil
  | listRequest =>
      refine .codec ListRequest.layout (fun _ => rfl) (fun _ => rfl) ?_
      exact cons reads_text <| cons reads_platform <| cons reads_option nil
  | clusterRequest =>
      refine .codec ClusterRequest.layout (fun _ => rfl) (fun _ => rfl) ?_
      exact cons reads_text <| cons (reads_list .machine) nil
  | clusterReply =>
      refine .codec ClusterReply.layout (fun _ => rfl) (fun _ => rfl) ?_
      exact cons reads_flag nil

end LaunchDesk
