import LaunchDesk.Proofs.Json.Literals
import LaunchDesk.Proofs.Wire.Positions
import LaunchDesk.Proofs.Wire.RoundTrip

/-!
# The counts of a machine

A machine is read from a document with a number as one of its counts exactly if the number is
written without a sign, a fraction and an exponent and is less than `2 ^ 32`, and if the rest of the
document is in order. The count is then this very number, and it is written as it was read. So no
number is cut short, rounded or brought into the range, however many digits it has.

## Implementation notes

The rest of a document is in order if the document is read with a zero in place of the number. What
stands in front of the number and behind it is given by its tokens, so that blanks, further members
and the spelling of strings are left open. An array is the object with its items under the names of
their positions, so only the members of an object are looked at.
-/

namespace LaunchDesk

open Decimal Json Layout Text

namespace Machine

/-- The counts of a machine: its processors and its accelerators. -/
inductive Count where
  | processors
  | accelerators
  deriving DecidableEq, Repr

namespace Count

/-- The name of a count in an object. -/
def name : Count → String
  | processors => "cpu_count"
  | accelerators => "gpu_num"

/-- The number of items in front of a count in an array. -/
def position : Count → Nat
  | processors => 2
  | accelerators => 5

/-- The count that a machine has. -/
def get : Count → Machine → UInt32
  | processors => Machine.vcpus
  | accelerators => Machine.acceleratorCount

/-- A machine with another count. -/
def set : Count → Machine → UInt32 → Machine
  | processors, m, n => { m with vcpus := n }
  | accelerators, m, n => { m with acceleratorCount := n }

variable {count : Count} {m : Machine} {n : UInt32}

@[simp] theorem get_set : count.get (count.set m n) = n := by
  cases count <;> rfl

@[simp] theorem set_set {k : UInt32} : count.set (count.set m n) k = count.set m k := by
  cases count <;> rfl

@[simp] theorem set_get : count.set m (count.get m) = m := by
  cases count <;> rfl

end Count

section Documents

variable {count : Count} {m : Machine} {numeral : Numeral}
  {before after : List (Option String × Json)}

theorem reads_count_iff {ρ : Type} {name : String} {standIn? : Option UInt32} {value : ρ → UInt32}
    {n : UInt32} :
    RecordEntry.Reads ⟨name, .count, standIn?, value⟩
        (before ++ (some name, .num numeral) :: after) n ↔
      (valuesOf name before = [] ∧ valuesOf name after = []) ∧ numeral.nat? = some n.toNat := by
  unfold RecordEntry.Reads
  simp only [valuesOf_append, valuesOf_cons_self]
  cases valuesOf name before with
  | nil =>
      cases valuesOf name after with
      | nil => simp [Kind.Holds]
      | cons v more => simp
  | cons v more => cases more <;> simp

theorem reads_other_iff {ρ : Type} {e : RecordEntry ρ} {name : String} (h : name ≠ e.name)
    (v w : Json) {x : e.kind.Value} :
    e.Reads (before ++ (some name, v) :: after) x ↔
      e.Reads (before ++ (some name, w) :: after) x := by
  have hne : (some name : Option String) ≠ some e.name := fun heq => h (Option.some.inj heq)
  apply e.reads_congr
  simp only [valuesOf_append, valuesOf_cons_of_ne hne]

namespace Count

/-- The entry of a count. -/
def entry (count : Count) : RecordEntry Machine :=
  ⟨count.name, .count, some 0, count.get⟩

theorem entry_mem (count : Count) : count.entry ∈ RecordType.machine.entries := by
  cases count <;> simp [RecordType.entries, entry, name, get]

variable {e : RecordEntry Machine}

theorem eq_entry (he : e ∈ RecordType.machine.entries) (hname : e.name = count.name) :
    e = count.entry := by
  have hfind := find?_entry RecordType.machine.nodup_names count.entry_mem
  have hself := find?_entry RecordType.machine.nodup_names he
  rw [hname] at hself
  exact Option.some.inj (hself.symm.trans hfind)

/-- Another count leaves all other values as they are. -/
theorem value_set (count : Count) (m : Machine) (n : UInt32) :
    ∀ e ∈ RecordType.machine.entries, count.name ≠ e.name →
      e.value (count.set m n) = e.value m := by
  cases count <;> simp [RecordType.entries, name, set]

/-- A statement about all entries is one about the entry of a count and one about the others. -/
theorem forall_entries_iff (count : Count) (P : RecordEntry Machine → Prop) :
    (∀ e ∈ RecordType.machine.entries, P e) ↔
      P count.entry ∧ ∀ e ∈ RecordType.machine.entries, count.name ≠ e.name → P e := by
  constructor
  · exact fun h => ⟨h _ count.entry_mem, fun e he _ => h e he⟩
  · rintro ⟨hentry, hothers⟩ e he
    by_cases hname : count.name = e.name
    · rw [eq_entry he hname.symm]
      exact hentry
    · exact hothers e he hname

/-- The entries read a machine from members with a number as a count exactly if they read one
without this count from members with a zero, and the number shows the count. -/
theorem reads_entries_iff :
    (∀ e ∈ RecordType.machine.entries,
        e.Reads (before ++ (some count.name, .num numeral) :: after) (e.value m)) ↔
      numeral.nat? = some (count.get m).toNat ∧
        ∀ e ∈ RecordType.machine.entries,
          e.Reads (before ++ (some count.name, Json.nat 0) :: after) (e.value (count.set m 0)) := by
  have hothers : (∀ e ∈ RecordType.machine.entries, count.name ≠ e.name →
      e.Reads (before ++ (some count.name, .num numeral) :: after) (e.value m)) ↔
        ∀ e ∈ RecordType.machine.entries, count.name ≠ e.name →
          e.Reads (before ++ (some count.name, Json.nat 0) :: after) (e.value (count.set m 0)) := by
    -- The members of another name are the same, and so is the value that they are to show.
    refine forall₃_congr fun e he hname => ?_
    rw [count.value_set m 0 e he hname]
    exact reads_other_iff hname _ _
  have hnumeral : count.entry.Reads (before ++ (some count.name, .num numeral) :: after)
      (count.entry.value m) ↔ (valuesOf count.name before = [] ∧ valuesOf count.name after = []) ∧
        numeral.nat? = some (count.get m).toNat := reads_count_iff
  have hzero : count.entry.Reads (before ++ (some count.name, Json.nat 0) :: after)
      (count.entry.value (count.set m 0)) ↔
        valuesOf count.name before = [] ∧ valuesOf count.name after = [] := by
    have hget : (Numeral.ofNat 0).nat? = some (count.get (count.set m 0)).toNat := by
      rw [get_set]
      exact Numeral.nat?_ofNat 0
    exact reads_count_iff.trans (and_iff_left hget)
  have hentries := count.forall_entries_iff fun e =>
    e.Reads (before ++ (some count.name, Json.nat 0) :: after) (e.value (count.set m 0))
  rw [count.forall_entries_iff, hnumeral, hothers, hentries, hzero, and_assoc]
  exact and_left_comm

end Count

/-- An object is read with a number as a count exactly if it is read with a zero, and the number
shows the count. -/
theorem read?_obj_count_iff :
    (Codec.of Machine).read? (.obj (before ++ (some count.name, .num numeral) :: after)) = some m ↔
      numeral.nat? = some (count.get m).toNat ∧
        (Codec.of Machine).read? (.obj (before ++ (some count.name, Json.nat 0) :: after)) =
          some (count.set m 0) := by
  have hfollows := RecordType.machine.follows
  by_cases hn : NamesReadable (before ++ (some count.name, .num numeral) :: after)
  · have hzero : NamesReadable (before ++ (some count.name, Json.nat 0) :: after) :=
      namesReadable_exchange.mp hn
    rw [read?_eq_some_iff hfollows hn, read?_eq_some_iff hfollows hzero]
    exact Count.reads_entries_iff
  · have hzero : ¬ NamesReadable (before ++ (some count.name, Json.nat 0) :: after) :=
      mt namesReadable_exchange.mp hn
    have hnone := read?_eq_none hfollows hn
    have hnoneZero := read?_eq_none hfollows hzero
    rw [hnone, hnoneZero]
    simp

theorem keyed_append {names others : List String} {name : String} {items more : List Json}
    (h : names.length = items.length) (v : Json) :
    keyed (names ++ name :: others) (items ++ v :: more) =
      keyed names items ++ (some name, v) :: keyed others more := by
  rw [keyed, List.zip_append h, List.zip_cons_cons, named, List.map_append, List.map_cons]
  rfl

/-- An item that is a count is a member of its name. -/
theorem keyed_count {items more : List Json} (h : items.length = count.position) (v : Json) :
    RecordType.machine.keyed (items ++ v :: more) =
      .obj (keyed (RecordType.machine.names.take count.position) items ++ (some count.name, v) ::
        keyed (RecordType.machine.names.drop (count.position + 1)) more) := by
  have hlength : (RecordType.machine.names.take count.position).length = items.length := by
    rw [h]
    cases count <;> rfl
  have hnames : RecordType.machine.names = RecordType.machine.names.take count.position ++
      count.name :: RecordType.machine.names.drop (count.position + 1) := by
    cases count <;> rfl
  rw [← keyed_append hlength, ← hnames, RecordType.keyed]

/-- So it is with the items of an array. -/
theorem read?_arr_count_iff {items more : List Json} (h : items.length = count.position) :
    (Codec.of Machine).read? (.arr (items ++ .num numeral :: more)) = some m ↔
      numeral.nat? = some (count.get m).toNat ∧
        (Codec.of Machine).read? (.arr (items ++ Json.nat 0 :: more)) =
          some (count.set m 0) := by
  have harr : ∀ (v : Json) (m : Machine),
      (Codec.of Machine).read? (.arr (items ++ v :: more)) = some m ↔
        Spans RecordType.machine.names RecordType.machine.defaulted
            (items.length + more.length + 1) ∧
          (Codec.of Machine).read? (RecordType.machine.keyed (items ++ v :: more)) = some m := by
    intro v m
    have hlength : (items ++ v :: more).length = items.length + more.length + 1 := by
      rw [List.length_append, List.length_cons, Nat.add_assoc]
    rw [← hlength]
    exact RecordType.machine.read?_arr_eq_some_iff
  rw [harr, harr, keyed_count h, keyed_count h, read?_obj_count_iff]
  exact and_left_comm

end Documents

namespace Count

/-- The tokens in front of a count and behind it, and the document that they are around a value: an
object in which the count is a member, or an array in which it is an item. -/
inductive Around (count : Count) : List Token → List Token → (Json → Json) → Prop
  | member (before after : List (Option String × Json)) :
      Around count (.leftBrace :: membersBefore before ++ [.str (some count.name), .colon])
        (tokens.moreMemberTokens after) fun v => .obj (before ++ (some count.name, v) :: after)
  | item (before after : List Json) (h : before.length = count.position) :
      Around count (.leftBracket :: itemsBefore before) (tokens.moreItemTokens after)
        fun v => .arr (before ++ v :: after)

/-- A text in front of a count and one behind it, with blanks and spellings of strings as they may
be. -/
def Surrounds (count : Count) (front back : String) : Prop :=
  ∃ ts us place, count.Around ts us place ∧
    lex? (textPieces front) = some ts ∧ lex? (textPieces back) = some us

section Around

variable {count : Count} {ts us : List Token} {place : Json → Json}

theorem Around.tokens_eq (h : count.Around ts us place) (v : Json) :
    (place v).tokens = ts ++ v.tokens ++ us := by
  cases h with
  | member before after =>
      rw [tokens, memberTokens_append]
      simp
  | item before after h =>
      rw [tokens, itemTokens_append]
      rfl

theorem isNumber_of_last {t : Token} (h : isNumber t = false) :
    ∀ u ∈ (ts ++ [t]).getLast?, isNumber u = false := by
  intro u hu
  obtain rfl : t = u := by simpa using hu
  exact h

/-- The token in front of a count is no number. -/
theorem Around.last_front (h : count.Around ts us place) :
    ∀ t ∈ ts.getLast?, isNumber t = false := by
  cases h with
  | member before after =>
      have hlast : .leftBrace :: membersBefore before ++ [.str (some count.name), .colon] =
          (.leftBrace :: membersBefore before ++ [.str (some count.name)]) ++ [.colon] := by simp
      rw [hlast]
      exact isNumber_of_last rfl
  | item before after h =>
      rcases List.eq_nil_or_concat' before with rfl | ⟨items, v, rfl⟩
      · simp [itemsBefore, isNumber]
      · have hlast : .leftBracket :: itemsBefore (items ++ [v]) =
            (.leftBracket :: itemsBefore items ++ v.tokens) ++ [.comma] := by simp [itemsBefore]
        rw [hlast]
        exact isNumber_of_last rfl

/-- Nor is the token behind it. -/
theorem Around.first_back (h : count.Around ts us place) :
    ∀ t ∈ us.head?, isNumber t = false := by
  cases h with
  | member before after => cases after <;> simp [tokens.moreMemberTokens, isNumber]
  | item before after h => cases after <;> simp [tokens.moreItemTokens, isNumber]

theorem Around.read?_iff {m : Machine} {numeral : Numeral} (h : count.Around ts us place) :
    (Codec.of Machine).read? (place (.num numeral)) = some m ↔
      numeral.nat? = some (count.get m).toNat ∧
        (Codec.of Machine).read? (place (Json.nat 0)) = some (count.set m 0) := by
  cases h with
  | member before after => exact read?_obj_count_iff
  | item before after h => exact read?_arr_count_iff h

end Around

theorem text_zero : (Literal.ofNat 0).text = "0" := by
  decide +kernel

section Texts

variable {count : Count} {front back : String} {l : Literal} {m : Machine}

/-- A text with a literal as a count is the document with the numeral of the literal. -/
theorem decode?_around {ts us : List Token} {place : Json → Json} (h : count.Around ts us place)
    (hfront : lex? (textPieces front) = some ts) (hback : lex? (textPieces back) = some us)
    (l : Literal) : decode? Machine (front ++ l.text ++ back) =
      (Codec.of Machine).read? (place (.num l.numeral)) := by
  apply decode?_of_tokens
  have hpieces : textPieces (front ++ l.text ++ back) =
      textPieces front ++ asPieces l.chars ++ textPieces back := by
    simp [textPieces, asPieces, Literal.text]
  rw [hpieces, lex?_around l hfront h.last_front hback h.first_back, h.tokens_eq]
  simp [tokens]

theorem decode?_eq_some_iff (h : count.Surrounds front back) :
    decode? Machine (front ++ l.text ++ back) = some m ↔
      (l.Plain ∧ value l.whole = (count.get m).toNat) ∧
        decode? Machine (front ++ "0" ++ back) = some (count.set m 0) := by
  obtain ⟨ts, us, place, haround, hfront, hback⟩ := h
  rw [← text_zero, decode?_around haround hfront hback, decode?_around haround hfront hback,
    haround.read?_iff, Literal.nat?_numeral_eq_some_iff]
  rfl

/-- A machine that is written as the document around a number has a text in front of the number and
one behind it. -/
theorem encode_around {ts us : List Token} {place : Json → Json} {n : Nat}
    (h : count.Around ts us place) (hwrite : (Codec.of Machine).write m = place (Json.nat n)) :
    ∃ front back, count.Surrounds front back ∧ encode m = front ++ natText n ++ back := by
  have htokens : ((Codec.of Machine).write m).tokens = ts ++ (Json.nat n).tokens ++ us := by
    rw [hwrite, h.tokens_eq]
  have hlegible : ∀ t ∈ ts ++ (Json.nat n).tokens ++ us, Legible t :=
    htokens ▸ written_machine m
  have hseparate : Separate (ts ++ (Json.nat n).tokens ++ us) := by
    have hnil : Closed [] := ⟨.nil, by simp⟩
    rw [← htokens]
    simpa using separate_tokens hnil ((Codec.of Machine).write m)
  have hread : ∀ part : List Token, (∀ t ∈ part, Legible t) → Separate part →
      lex? (textPieces (String.ofList (tokensText part))) = some part := by
    intro part hl hs
    rw [textPieces_ofList, lex?_tokensText hl hs]
  refine ⟨String.ofList (tokensText ts), String.ofList (tokensText us), ⟨ts, us, place, h, ?_, ?_⟩,
    ?_⟩
  · apply hread
    · exact fun t ht => hlegible t (by simp [ht])
    · exact hseparate.left_of_append.left_of_append
  · apply hread
    · exact fun t ht => hlegible t (by simp [ht])
    · exact hseparate.right_of_append
  · rw [encode, render, Json.chars, htokens]
    simp [tokensText, tokens, Json.nat, tokenChars, natText, Numeral.chars, Numeral.ofNat,
      String.append_assoc]

/-- A machine is written with each of its counts as a member. -/
theorem exists_write_eq (count : Count) (m : Machine) : ∃ before after,
    (Codec.of Machine).write m =
      .obj (before ++ (some count.name, Json.nat (count.get m).toNat) :: after) := by
  cases count with
  | processors => exact ⟨[_, _], [_, _, _, _, _], rfl⟩
  | accelerators => exact ⟨[_, _, _, _, _], [_, _], rfl⟩

theorem encode_eq (count : Count) (m : Machine) : ∃ front back, count.Surrounds front back ∧
    encode m = front ++ natText (count.get m).toNat ++ back := by
  obtain ⟨before, after, hwrite⟩ := count.exists_write_eq m
  exact encode_around (.member before after) hwrite

/-- What is read as a count is the text of the count. -/
theorem text_eq_of_decode? (h : count.Surrounds front back)
    (hm : decode? Machine (front ++ l.text ++ back) = some m) :
    l.text = natText (count.get m).toNat := by
  obtain ⟨⟨hplain, hvalue⟩, -⟩ := (decode?_eq_some_iff h).mp hm
  rw [Literal.text_eq_of_plain hplain, hvalue]

/-- A zero is read as a zero. -/
theorem get_eq_zero (h : count.Surrounds front back)
    (hm : decode? Machine (front ++ "0" ++ back) = some m) : count.get m = 0 := by
  rw [← text_zero] at hm
  obtain ⟨⟨-, hvalue⟩, -⟩ := (decode?_eq_some_iff h).mp hm
  apply UInt32.toNat_inj.mp
  rw [← hvalue]
  exact value_digitsOf 0

/-- A literal of a count is accepted if the value of the count is. -/
theorem decode?_isSome_iff (h : count.Surrounds front back) :
    (decode? Machine (front ++ l.text ++ back)).isSome ↔
      l.Plain ∧ value l.whole ≤ 4294967295 ∧ (decode? Machine (front ++ "0" ++ back)).isSome := by
  constructor
  · intro hsome
    obtain ⟨m, hm⟩ := Option.isSome_iff_exists.mp hsome
    obtain ⟨⟨hplain, hvalue⟩, hzero⟩ := (decode?_eq_some_iff h).mp hm
    have hlt := (count.get m).toNat_lt
    refine ⟨hplain, by omega, ?_⟩
    rw [hzero]
    rfl
  · rintro ⟨hplain, hle, hsome⟩
    obtain ⟨m, hm⟩ := Option.isSome_iff_exists.mp hsome
    -- The machine that is read with the zero becomes the one to be read when its count is set.
    have hget : count.get m = 0 := get_eq_zero h hm
    have hlt : value l.whole < UInt32.size := Nat.lt_succ_of_le hle
    have hvalue : value l.whole = (UInt32.ofNat (value l.whole)).toNat :=
      (UInt32.toNat_ofNat_of_lt' hlt).symm
    have hread : decode? Machine (front ++ l.text ++ back) =
        some (count.set m (UInt32.ofNat (value l.whole))) := by
      apply (decode?_eq_some_iff h).mpr
      rw [get_set, set_set, ← hget, set_get]
      exact ⟨⟨hplain, hvalue⟩, hm⟩
    rw [hread]
    rfl

end Texts

/-- How a count is read from the texts of machines and written to them. -/
structure Exact (count : Count) : Prop where
  /-- A text with a number as the count is accepted if the number has neither a sign nor a fraction
  nor an exponent and is not too large, and if the text is accepted with a zero. -/
  accepted : ∀ front back : String, count.Surrounds front back → ∀ l : Literal,
    (decode? Machine (front ++ l.text ++ back)).isSome ↔
      l.Plain ∧ value l.whole ≤ 4294967295 ∧ (decode? Machine (front ++ "0" ++ back)).isSome
  /-- The count is then the value of the number, and nothing else depends on the number. -/
  value : ∀ front back : String, count.Surrounds front back → ∀ (l : Literal) (m : Machine),
    decode? Machine (front ++ l.text ++ back) = some m →
      (count.get m).toNat = Decimal.value l.whole ∧
        decode? Machine (front ++ "0" ++ back) = some (count.set m 0)
  /-- The machine is written with the number as it was read. -/
  written : ∀ front back : String, count.Surrounds front back → ∀ (l : Literal) (m : Machine),
    decode? Machine (front ++ l.text ++ back) = some m →
      ∃ before after : String, count.Surrounds before after ∧
        encode m = before ++ l.text ++ after
  /-- A number of accelerators is shown as it was read. -/
  shown : count = accelerators → ∀ front back : String, count.Surrounds front back →
    ∀ (l : Literal) (m : Machine), decode? Machine (front ++ l.text ++ back) = some m →
      m.acceleratorSpec = m.accelerator ++ ":" ++ l.text

theorem counts_exact (count : Count) : count.Exact where
  accepted _ _ h _ := decode?_isSome_iff h
  value front back h l m hm := by
    obtain ⟨⟨-, hvalue⟩, hzero⟩ := (decode?_eq_some_iff h).mp hm
    exact ⟨hvalue.symm, hzero⟩
  written front back h l m hm := by
    rw [text_eq_of_decode? h hm]
    exact count.encode_eq m
  shown hcount front back h l m hm := by
    subst hcount
    rw [Machine.acceleratorSpec, text_eq_of_decode? h hm]
    rfl

/-- The largest number of accelerators is accepted, and the next number is not. -/
theorem counts_exact_of_largest :
    (decode? Machine "\x7b\"gpu_num\":4294967295\x7d").isSome = true ∧
      (decode? Machine "\x7b\"gpu_num\":4294967296\x7d").isSome = false := by
  have hsurrounds : accelerators.Surrounds "\x7b\"gpu_num\":" "\x7d" :=
    ⟨_, _, _, .member [] [], by decide +kernel, by decide +kernel⟩
  have haccepted := (counts_exact accelerators).accepted _ _ hsurrounds
  have hzero : (decode? Machine "\x7b\"gpu_num\":0\x7d").isSome := by decide +kernel
  have hlargest : (Literal.ofNat 4294967295).text = "4294967295" := by decide +kernel
  have hnext : (Literal.ofNat 4294967296).text = "4294967296" := by decide +kernel
  constructor
  · have hread := (haccepted (Literal.ofNat 4294967295)).mpr
      ⟨⟨rfl, rfl, rfl⟩, (value_digitsOf 4294967295).le, hzero⟩
    rw [hlargest] at hread
    exact hread
  · have hrefused := mt (haccepted (Literal.ofNat 4294967296)).mp (fun ⟨_, hle, _⟩ => by
      rw [Literal.ofNat, value_digitsOf] at hle
      omega)
    rw [hnext] at hrefused
    exact Bool.not_eq_true _ ▸ hrefused

end Count

end Machine

end LaunchDesk
