import LaunchDesk.Invocation
import LaunchDesk.Proofs.CommandLine.Spelling

/-!
# The implied subcommand

What options and file names on a command line ask for, whatever stands first. The word for the
implied subcommand may stand in front of the options, between them or not at all: the command line
asks for the same, or fails in the same way.

## Implementation notes

An item is settled only when something else begins or when the words end. So what a state amounts to
is what it gives once it is settled, and an item adds to that; this is the step lemma, and reading
all items follows by induction. A word among the file names then is a file like any other, and
stands in front of all of them wherever the options are.
-/

namespace LaunchDesk

namespace CommandLine

/-- An option with its value, in words that say them. -/
structure Occurrence where
  /-- The option. -/
  option : Opt
  /-- The value. -/
  value : String
  /-- The words. -/
  words : List String
  spelled : Spelled option value words

/-- A word that stands for a file, as it does not look like an option. -/
structure FileWord where
  /-- The name of the file. -/
  name : String
  plain : Word.of name = .plain

/-- What can stand behind the command. -/
inductive Item where
  /-- An option with its value. -/
  | option (o : Occurrence)
  /-- A file. -/
  | file (f : FileWord)

/-- The words of an item. -/
def Item.words : Item → List String
  | option o => o.words
  | file f => [f.name]

@[simp] theorem Item.words_option (o : Occurrence) : (option o).words = o.words := rfl

@[simp] theorem Item.words_file (f : FileWord) : (file f).words = [f.name] := rfl

/-- What is given with one more item. -/
def Given.add (g : Given) : Item → Except Fault Given
  | .option o =>
      if (g.value? o.option).isSome then .error .argumentConflict
      else if o.option.accepts o.value then
        .ok { g with options := g.options ++ [(o.option, o.value)] }
      else .error .invalidValue
  | .file f =>
      if f.name = "" then .error .invalidValue else .ok { g with files := g.files ++ [f.name] }

namespace State

/-- What a state gives once it is settled. -/
def settled (s : State) : Except Fault Given :=
  s.settle.map State.given

/-- A state in which an item may follow. -/
structure Open (s : State) : Prop where
  unmarked : s.marked = false
  awaitsNone : s.awaitsValue = false

variable {s t : State} {level : Level}

/-- What is settled is still open, with nothing pending. -/
theorem settle_frame (h : s.settle = .ok t) :
    t.marked = s.marked ∧ t.begun = s.begun ∧ t.pending = .nothing := by
  rcases settle_cases h with ⟨hp, rfl⟩ | ⟨o, value, -, htake⟩ | ⟨names, -, -, rfl⟩
  · exact ⟨rfl, rfl, hp⟩
  · obtain ⟨-, -, rfl⟩ := take_cases htake
    exact ⟨rfl, rfl, rfl⟩
  · exact ⟨rfl, rfl, rfl⟩

theorem settle_begun (s : State) :
    settle { s with begun := true } = s.settle.map fun t => { t with begun := true } := by
  obtain ⟨given, pending, marked, begun⟩ := s
  cases pending with
  | nothing => rfl
  | option o value =>
      cases value with
      | none => rfl
      | some value =>
          simp only [settle, take]
          split_ifs <;> rfl
  | files names =>
      simp only [settle]
      split_ifs <;> rfl

theorem settled_of_nothing (h : s.pending = .nothing) : s.settled = .ok s.given := by
  unfold settled settle
  rw [h]
  rfl

theorem map_given_take (s : State) (o : Occurrence) :
    (s.take o.option o.value).map State.given = s.given.add (.option o) := by
  simp only [take, Given.add]
  split_ifs <;> rfl

theorem settled_of_option {o : Occurrence} (h : s.pending = .option o.option (some o.value)) :
    s.settled = s.given.add (.option o) := by
  rw [← map_given_take]
  unfold settled settle
  rw [h]

theorem settled_of_file (s : State) (f : FileWord) :
    settled { s with pending := .files [f.name], begun := true } = s.given.add (.file f) := by
  by_cases hf : f.name = ""
  · simp [settled, settle, hf, Given.add, Except.map]
  · simp [settled, settle, hf, Ne.symm hf, Given.add, Except.map]

theorem settled_of_files {names : List String} (h : s.pending = .files names) (f : FileWord) :
    settled { s with pending := .files (names ++ [f.name]), begun := true } =
      s.settled >>= (·.add (.file f)) := by
  unfold settled settle
  rw [h]
  dsimp only
  by_cases hnames : "" ∈ names
  · simp [hnames, Except.map, bind, Except.bind]
  · by_cases hf : f.name = ""
    · simp [hnames, hf, Given.add, Except.map, bind, Except.bind]
    · simp [hnames, hf, Ne.symm hf, Given.add, Except.map, bind, Except.bind]

/-- An option begins in a state in which all before it is settled. -/
theorem beginOption_cases (s : State) (o : Opt) :
    (∃ f, s.settled = .error f ∧ ∀ attached, s.beginOption o attached = .error f) ∨
      ∃ t : State, s.settled = .ok t.given ∧ t.marked = s.marked ∧ t.begun = true ∧
        s.beginOption o none = .ok { t with pending := .option o none } ∧
        ∀ value, s.beginOption o (some value) = t.take o value := by
  simp only [beginOption, settled, settle_begun]
  cases h : s.settle with
  | error f => exact Or.inl ⟨f, rfl, fun attached => rfl⟩
  | ok t =>
      obtain ⟨hmarked, -, -⟩ := settle_frame h
      exact Or.inr ⟨{ t with begun := true }, rfl, hmarked, rfl, rfl, fun value => rfl⟩

end State

section Reading

variable {level : Level} {s : State}

/-- A word leads to another state at its level unless it is a subcommand. -/
theorem readLevel_cons {word : String} (h : s.subcommand? level word = none)
    (words : List String) :
    readLevel level s (word :: words) = s.read level word >>= (readLevel level · words) := by
  rw [readLevel, h]

theorem readLevel_nil_eq (level : Level) (s : State) :
    readLevel level s [] = s.settled.map fun g => [(level, g)] := by
  rw [readLevel, State.settled]
  cases s.settle <;> rfl

/-- A state that waits for the value of an option takes a word that does not look like one. -/
theorem readLevel_value {o : Opt} {value : String} (hm : s.marked = false)
    (hp : s.pending = .option o none) (hv : Word.of value = .plain) (words : List String) :
    readLevel level s (value :: words) =
      readLevel level { s with pending := .option o (some value) } words := by
  have hawaits : s.awaitsValue = true := State.awaitsValue_iff.mpr ⟨o, hp⟩
  have hread : s.read level value = .ok { s with pending := .option o (some value) } := by
    simp only [State.read, hm, hv, hp, Bool.false_eq_true, if_false]
  rw [readLevel_cons (by simp [State.subcommand?, hawaits]), hread]
  rfl

/-- What reading an item comes to: it fails, or there is a state in which the item is added to what
is given, and in which the other words are read. -/
def Leads (level : Level) (s : State) (item : Item) : Prop :=
  (∃ f, (s.settled >>= (·.add item)) = .error f ∧
      ∀ words, readLevel level s (item.words ++ words) = .error f) ∨
    ∃ t : State, t.Open ∧ t.begun = true ∧ t.settled = s.settled >>= (·.add item) ∧
      ∀ words, readLevel level s (item.words ++ words) = readLevel level t words

theorem leads_option (hlevel : level ≠ .program) (hs : s.Open) (o : Occurrence) :
    Leads level s (.option o) := by
  have hnamed : ∀ word attached, Names o.option word attached → ∀ words,
      readLevel level s (word :: words) =
        s.beginOption o.option attached >>= (readLevel level · words) := by
    intro word attached hnames words
    rw [readLevel_cons (subcommand?_of_not_plain hnames.not_plain),
      hnames.read_eq hlevel hs.unmarked]
  simp only [Leads, Item.words_option]
  rcases s.beginOption_cases o.option with
    ⟨f, hsettled, hbegin⟩ | ⟨t, hsettled, hmarked, hbegun, hnone, hsome⟩
  · refine Or.inl ⟨f, by rw [hsettled]; rfl, fun words => ?_⟩
    rcases o.spelled.cases with ⟨word, hnames, -, hwords⟩ | ⟨word, hnames, hwords⟩
    · rw [hwords, List.cons_append, hnamed word _ hnames, hbegin]
      rfl
    · rw [hwords, List.cons_append, hnamed word _ hnames, hbegin]
      rfl
  · have hm : t.marked = false := hmarked.trans hs.unmarked
    rcases o.spelled.cases with ⟨word, hnames, hplain, hwords⟩ | ⟨word, hnames, hwords⟩
    · refine Or.inr ⟨{ t with pending := .option o.option (some o.value) }, ⟨hm, rfl⟩, hbegun, ?_,
        fun words => ?_⟩
      · rw [State.settled_of_option rfl, hsettled]
        rfl
      · rw [hwords, List.cons_append, hnamed word _ hnames, hnone]
        exact readLevel_value (s := { t with pending := .option o.option none }) hm rfl hplain words
    · have hadd := t.map_given_take o
      cases htake : t.take o.option o.value with
      | error f =>
          rw [htake] at hadd
          refine Or.inl ⟨f, by rw [hsettled]; exact hadd.symm, fun words => ?_⟩
          rw [hwords, List.cons_append, hnamed word _ hnames, hsome, htake]
          rfl
      | ok u =>
          rw [htake] at hadd
          obtain ⟨-, -, rfl⟩ := State.take_cases htake
          refine Or.inr ⟨t.put o.option o.value, ⟨hm, rfl⟩, hbegun, ?_, fun words => ?_⟩
          · rw [State.settled_of_nothing rfl, hsettled]
            exact hadd
          · rw [hwords, List.cons_append, hnamed word _ hnames, hsome, htake]
            rfl

theorem leads_file (hlevel : level ≠ .program) (hs : s.Open) (f : FileWord)
    (hsub : s.subcommand? level f.name = none) : Leads level s (.file f) := by
  have htakes : level.takesFiles = true := by
    cases level with
    | program => exact absurd rfl hlevel
    | launch | explicit => rfl
  have hread : ∀ words, readLevel level s ((Item.file f).words ++ words) =
      s.readFile f.name >>= (readLevel level · words) := by
    intro words
    rw [Item.words_file, List.singleton_append, readLevel_cons hsub,
      State.read_of_plain hs.unmarked f.plain hs.awaitsNone, State.readPositional, if_pos htakes]
  by_cases hfiles : ∃ names, s.pending = .files names
  · obtain ⟨names, hp⟩ := hfiles
    refine Or.inr ⟨{ s with pending := .files (names ++ [f.name]), begun := true },
      ⟨hs.unmarked, rfl⟩, rfl, State.settled_of_files hp f, fun words => ?_⟩
    rw [hread words, State.readFile, hp]
    rfl
  · rw [State.readFile_of_ne_files (not_exists.mp hfiles)] at hread
    have hsettled : s.settled = s.settle.map State.given := rfl
    cases hsettle : s.settle with
    | error fault =>
        rw [hsettle] at hsettled hread
        exact Or.inl ⟨fault, by rw [hsettled]; rfl, hread⟩
    | ok t =>
        rw [hsettle] at hsettled hread
        obtain ⟨hmarked, -, hnothing⟩ := State.settle_frame hsettle
        refine Or.inr ⟨{ t with pending := .files [f.name], begun := true },
          ⟨hmarked.trans hs.unmarked, rfl⟩, rfl, ?_, hread⟩
        rw [hsettled, State.settled_of_file]
        rfl

/-- Reading items adds them to what is given, one after the other, as long as the first one is no
subcommand. -/
theorem readLevel_items (hlevel : level ≠ .program) (hs : s.Open) (items : List Item)
    (hsub : ∀ f, items.head? = some (.file f) → s.subcommand? level f.name = none) :
    readLevel level s (items.flatMap Item.words) =
      (s.settled >>= fun g => items.foldlM Given.add g).map fun g => [(level, g)] := by
  induction items generalizing s with
  | nil =>
      rw [List.flatMap_nil, readLevel_nil_eq]
      cases s.settled <;> rfl
  | cons item items ih =>
      have hleads : Leads level s item := by
        cases item with
        | option o => exact leads_option hlevel hs o
        | file f => exact leads_file hlevel hs f (hsub f rfl)
      have hfold : (s.settled >>= fun g => (item :: items).foldlM Given.add g) =
          (s.settled >>= (·.add item)) >>= fun g => items.foldlM Given.add g := by
        cases s.settled <;> rfl
      rw [List.flatMap_cons, hfold]
      rcases hleads with ⟨f, hadd, hread⟩ | ⟨t, ht, hbegun, hadd, hread⟩
      · rw [hread, hadd]
        rfl
      · rw [hread, ← hadd, ih ht fun f _ => ?_]
        exact subcommand?_of_begun hlevel hbegun f.name

end Reading

section Meaning

variable {g h : Given}

/-- What is given with one more file in front of the others. -/
def Given.behind (name : String) (g : Given) : Given :=
  { g with files := name :: g.files }

theorem add_behind (name : String) (g : Given) (item : Item) :
    (g.behind name).add item = (g.add item).map (Given.behind name) := by
  cases item with
  | option o =>
      have hvalue : (g.behind name).value? o.option = g.value? o.option := rfl
      simp only [Given.add, hvalue]
      split_ifs <;> rfl
  | file f =>
      simp only [Given.add, Given.behind]
      split_ifs <;> rfl

theorem foldlM_add_behind (name : String) (items : List Item) (g : Given) :
    items.foldlM Given.add (g.behind name) =
      (items.foldlM Given.add g).map (Given.behind name) := by
  induction items generalizing g with
  | nil => rfl
  | cons item items ih =>
      rw [List.foldlM_cons, List.foldlM_cons, add_behind]
      cases g.add item with
      | error f => rfl
      | ok u => exact ih u

theorem add_option_ok_iff {o : Occurrence} : g.add (.option o) = .ok h ↔
    g.value? o.option = none ∧ o.option.accepts o.value = true ∧
      h = { g with options := g.options ++ [(o.option, o.value)] } := by
  simp only [Given.add]
  split_ifs with hgiven haccepts
  · simp [Option.isSome_iff_ne_none.mp hgiven]
  · simp [Option.not_isSome_iff_eq_none.mp hgiven, haccepts, eq_comm]
  · simp [haccepts]

theorem value?_concat_eq_none_iff {o other : Opt} {value : String} :
    Given.value? { g with options := g.options ++ [(o, value)] } other = none ↔
      g.value? other = none ∧ o ≠ other := by
  simp [Given.value?]

/-- Options are given if each is given once, with a value that it accepts; they are no files. -/
theorem foldlM_options_ok_iff (options : List Occurrence) :
    (options.map Item.option).foldlM Given.add g = .ok h ↔
      (∀ o ∈ options, g.value? o.option = none) ∧ (options.map Occurrence.option).Nodup ∧
        (∀ o ∈ options, o.option.accepts o.value = true) ∧
        h = { g with options := g.options ++ options.map fun o => (o.option, o.value) } := by
  induction options generalizing g with
  | nil =>
      have hnil : ([] : List Item).foldlM Given.add g = .ok g := rfl
      rw [List.map_nil, hnil, Except.ok.injEq]
      simp [@eq_comm Given h]
  | cons o options ih =>
      rw [List.map_cons, List.foldlM_cons]
      constructor
      · intro hok
        obtain ⟨u, hu, hok⟩ := ok_of_bind hok
        obtain ⟨hnone, haccepts, rfl⟩ := add_option_ok_iff.mp hu
        obtain ⟨hnew, hnodup, hall, rfl⟩ := ih.mp hok
        simp only [value?_concat_eq_none_iff] at hnew
        refine ⟨List.forall_mem_cons.mpr ⟨hnone, fun p hp => (hnew p hp).1⟩, ?_,
          List.forall_mem_cons.mpr ⟨haccepts, hall⟩, by simp⟩
        rw [List.map_cons, List.nodup_cons]
        refine ⟨fun hm => ?_, hnodup⟩
        obtain ⟨p, hp, heq⟩ := List.mem_map.mp hm
        exact (hnew p hp).2 heq.symm
      · rintro ⟨hnew, hnodup, hall, rfl⟩
        obtain ⟨hnone, hnew⟩ := List.forall_mem_cons.mp hnew
        obtain ⟨haccepts, hall⟩ := List.forall_mem_cons.mp hall
        obtain ⟨hfirst, hnodup⟩ := List.nodup_cons.mp hnodup
        rw [add_option_ok_iff.mpr ⟨hnone, haccepts, rfl⟩]
        refine ih.mpr ⟨fun p hp => ?_, hnodup, hall, by simp⟩
        refine value?_concat_eq_none_iff.mpr ⟨hnew p hp, fun heq => hfirst ?_⟩
        exact heq ▸ List.mem_map_of_mem hp

theorem foldlM_files_ok_iff (files : List FileWord) :
    (files.map Item.file).foldlM Given.add g = .ok h ↔
      (∀ f ∈ files, f.name ≠ "") ∧ h = { g with files := g.files ++ files.map FileWord.name } := by
  induction files generalizing g with
  | nil =>
      have hnil : ([] : List Item).foldlM Given.add g = .ok g := rfl
      rw [List.map_nil, hnil, Except.ok.injEq]
      simp [@eq_comm Given h]
  | cons f files ih =>
      rw [List.map_cons, List.foldlM_cons]
      by_cases hf : f.name = ""
      · simp [Given.add, hf, bind, Except.bind]
      · have hadd : g.add (.file f) = .ok { g with files := g.files ++ [f.name] } := if_neg hf
        rw [hadd]
        refine ih.trans ?_
        simp [hf]

/-- Options and files that can be given together. -/
structure Lawful (options : List Occurrence) (files : List FileWord) : Prop where
  /-- Each option is given once. -/
  once : (options.map Occurrence.option).Nodup
  /-- Each value is one that its option accepts. -/
  accepted : ∀ o ∈ options, o.option.accepts o.value = true
  /-- No file has the empty name. -/
  named : ∀ f ∈ files, f.name ≠ ""

/-- What is given before anything is read. -/
def Given.nothing : Given :=
  ⟨[], []⟩

/-- What options and files give. -/
def given (options : List Occurrence) (files : List FileWord) : Except Fault Given :=
  (options.map Item.option ++ files.map Item.file).foldlM Given.add Given.nothing

theorem given_ok_iff {options : List Occurrence} {files : List FileWord} :
    given options files = .ok g ↔ Lawful options files ∧
      g = ⟨options.map fun o => (o.option, o.value), files.map FileWord.name⟩ := by
  rw [given, List.foldlM_append]
  constructor
  · intro hok
    obtain ⟨u, hu, hok⟩ := ok_of_bind hok
    obtain ⟨-, honce, haccepted, rfl⟩ := (foldlM_options_ok_iff options).mp hu
    obtain ⟨hnamed, rfl⟩ := (foldlM_files_ok_iff files).mp hok
    exact ⟨⟨honce, haccepted, hnamed⟩, rfl⟩
  · rintro ⟨hlawful, rfl⟩
    rw [(foldlM_options_ok_iff options).mpr ⟨fun o _ => rfl, hlawful.once, hlawful.accepted, rfl⟩]
    exact (foldlM_files_ok_iff files).mpr ⟨hlawful.named, rfl⟩

/-- A file among the options comes to stand in front of the other files and changes nothing else. -/
theorem foldlM_add_between (before after : List Occurrence) (files : List FileWord) (f : FileWord)
    (hf : f.name ≠ "") :
    (before.map Item.option ++ .file f :: (after.map Item.option ++ files.map Item.file)).foldlM
        Given.add Given.nothing =
      (given (before ++ after) files).map (Given.behind f.name) := by
  rw [given, List.map_append, List.append_assoc, List.foldlM_append, List.foldlM_append]
  cases hu : (before.map Item.option).foldlM Given.add Given.nothing with
  | error fault => rfl
  | ok u =>
      obtain ⟨-, -, -, rfl⟩ := (foldlM_options_ok_iff before).mp hu
      refine Eq.trans ?_ (foldlM_add_behind f.name _ _)
      rw [← List.singleton_append, List.foldlM_append]
      simp [Given.add, hf, Given.behind, Given.nothing, bind, Except.bind]

end Meaning

section Lines

/-- The words of some options. -/
def optionWords (options : List Occurrence) : List String :=
  options.flatMap Occurrence.words

/-- The names of some files. -/
def fileNames (files : List FileWord) : List String :=
  files.map FileWord.name

theorem flatMap_words (options : List Occurrence) (files : List FileWord) :
    (options.map Item.option ++ files.map Item.file).flatMap Item.words =
      optionWords options ++ fileNames files := by
  simp only [List.flatMap_append, List.flatMap_map, Item.words_option, Item.words_file,
    ← List.map_eq_flatMap, optionWords, fileNames]

theorem start_open : State.start.Open :=
  ⟨rfl, rfl⟩

theorem settled_start : State.start.settled = .ok Given.nothing :=
  State.settled_of_nothing rfl

/-- A level that begins with a subcommand has nothing given at it. -/
theorem readLevel_start {level below : Level} {word : String}
    (h : State.start.subcommand? level word = some (.level below)) (words : List String) :
    readLevel level .start (word :: words) =
      (readLevel below .start words).map ((level, Given.nothing) :: ·) := by
  rw [readLevel, h]
  dsimp only
  cases readLevel below .start words <;> rfl

theorem read_launch (words : List String) : read ("launch" :: words) =
    (readLevel .launch .start words).map ((.program, Given.nothing) :: ·) :=
  readLevel_start (by decide) words

theorem readLevel_default (words : List String) :
    readLevel .launch .start ("default" :: words) =
      (readLevel .explicit .start words).map ((.launch, Given.nothing) :: ·) :=
  readLevel_start (by decide) words

theorem readLevel_start_items {level : Level} (hlevel : level ≠ .program) {items : List Item}
    (hsub : ∀ f, items.head? = some (.file f) → State.start.subcommand? level f.name = none) :
    readLevel level .start (items.flatMap Item.words) =
      (items.foldlM Given.add Given.nothing).map fun g => [(level, g)] := by
  rw [readLevel_items hlevel start_open items hsub, settled_start]
  rfl

/-- Items behind the command and its subcommand are given there. -/
theorem read_explicit (items : List Item) :
    read ("launch" :: "default" :: items.flatMap Item.words) =
      (items.foldlM Given.add Given.nothing).map fun g =>
        [(.program, Given.nothing), (.launch, Given.nothing), (.explicit, g)] := by
  rw [read_launch, readLevel_default, readLevel_start_items (by decide) fun f _ => rfl]
  cases items.foldlM Given.add Given.nothing <;> rfl

/-- Items behind the command alone are given there, unless the first one is a subcommand. -/
theorem read_implied {items : List Item} (hsub : ∀ f, items.head? = some (.file f) →
      State.start.subcommand? .launch f.name = none) :
    read ("launch" :: items.flatMap Item.words) =
      (items.foldlM Given.add Given.nothing).map fun g =>
        [(.program, Given.nothing), (.launch, g)] := by
  rw [read_launch, readLevel_start_items (by decide) hsub]
  cases items.foldlM Given.add Given.nothing <;> rfl

end Lines

end CommandLine

namespace Invocation

open CommandLine

/-- The value of an option among some. -/
def valueAmong (o : Opt) (options : List Occurrence) : Option String :=
  (options.find? fun p => p.option == o).map Occurrence.value

/-- What options and files ask for in an environment. -/
def asking (env : Environment) (options : List Occurrence) (files : List FileWord) :
    Invocation where
  platformUrl := (valueAmong .platformUrl options).or env.platformUrl
  apiKey := (valueAmong .apiKey options).or env.apiKey
  version := ((valueAmong .version options).bind Version.ofWord?).getD .release
  order :=
    { files := fileNames files
      cluster := valueAmong .cluster options
      group := valueAmong .group options }

/-- What is asked for where something is given at a level behind the command. -/
def ofGiven (env : Environment) (level : Level) (g : Given) : Invocation :=
  ofLevels.inner env ((g.value? .platformUrl).or env.platformUrl) level g

/-- Nothing is asked for where nothing is given. -/
theorem ofLevels_explicit (env : Environment) (g : Given) :
    ofLevels env [(.program, Given.nothing), (.launch, Given.nothing), (.explicit, g)] =
      .ok (ofGiven env .explicit g) := by
  have hurl : innermostUrl? [(.program, Given.nothing), (.launch, Given.nothing), (.explicit, g)] =
      g.value? .platformUrl := Option.or_none
  simp only [ofLevels, hurl]
  rfl

theorem ofLevels_launch (env : Environment) (g : Given) :
    ofLevels env [(.program, Given.nothing), (.launch, g)] = .ok (ofGiven env .launch g) := by
  have hurl : innermostUrl? [(.program, Given.nothing), (.launch, g)] = g.value? .platformUrl :=
    Option.or_none
  simp only [ofLevels, hurl]
  rfl

theorem parse_explicit (env : Environment) (items : List Item) :
    parse env ("launch" :: "default" :: items.flatMap Item.words) =
      (items.foldlM Given.add Given.nothing).map (ofGiven env .explicit) := by
  unfold parse
  rw [read_explicit]
  cases items.foldlM Given.add Given.nothing with
  | error f => rfl
  | ok g => exact ofLevels_explicit env g

theorem parse_implied (env : Environment) {items : List Item}
    (hsub : ∀ f, items.head? = some (.file f) →
      State.start.subcommand? .launch f.name = none) :
    parse env ("launch" :: items.flatMap Item.words) =
      (items.foldlM Given.add Given.nothing).map (ofGiven env .launch) := by
  unfold parse
  rw [read_implied hsub]
  cases items.foldlM Given.add Given.nothing with
  | error f => rfl
  | ok g => exact ofLevels_launch env g

theorem ofGiven_explicit (env : Environment) (options : List Occurrence) (files : List FileWord) :
    ofGiven env .explicit
        ⟨options.map fun o => (o.option, o.value), files.map FileWord.name⟩ =
      asking env options files := by
  have hvalue : ∀ o, Given.value? ⟨options.map fun o => (o.option, o.value),
      files.map FileWord.name⟩ o = valueAmong o options := by
    intro o
    simp [Given.value?, valueAmong, List.find?_map, Function.comp_def]
  simp only [ofGiven, ofLevels.inner, versionAt, hvalue]
  rfl

/-- The word for the implied subcommand in front of the files is no file. -/
theorem ofGiven_behind_default (env : Environment) (g : Given) :
    ofGiven env .launch (g.behind "default") = ofGiven env .explicit g := by
  have hfiles : filesAt .launch (g.behind "default").files = filesAt .explicit g.files := by
    simp [filesAt, withoutImplied, Given.behind]
  simp only [ofGiven, ofLevels.inner, hfiles]
  rfl

theorem ofGiven_launch (env : Environment) {g : Given} (h : g.files.head? ≠ some "default") :
    ofGiven env .launch g = ofGiven env .explicit g := by
  have hfiles : filesAt .launch g.files = filesAt .explicit g.files := by
    simp [filesAt, withoutImplied, h]
  simp only [ofGiven, ofLevels.inner, hfiles]

section Forms

variable (env : Environment) (before after options : List Occurrence) (files : List FileWord)

/-- Options and files behind the subcommand. -/
theorem parse_named :
    parse env ("launch" :: "default" :: (optionWords options ++ fileNames files)) =
      (given options files).map (ofGiven env .explicit) := by
  rw [← flatMap_words, parse_explicit, given]

/-- Options and files with the word for the subcommand between the options. -/
theorem parse_between :
    parse env ("launch" :: (optionWords before ++
        "default" :: (optionWords after ++ fileNames files))) =
      (given (before ++ after) files).map (ofGiven env .explicit) := by
  cases before with
  | nil => exact parse_named env after files
  | cons o before =>
      let word : FileWord := ⟨"default", by decide⟩
      have hwords : optionWords (o :: before) ++
          "default" :: (optionWords after ++ fileNames files) =
          ((o :: before).map Item.option ++ .file word ::
            (after.map Item.option ++ files.map Item.file)).flatMap Item.words := by
        rw [← flatMap_words, optionWords]
        simp [List.flatMap_map, word]
      rw [hwords, parse_implied env (by simp),
        foldlM_add_between (o :: before) after files word (by decide)]
      cases given (o :: before ++ after) files with
      | error f => rfl
      | ok g => exact congrArg Except.ok (ofGiven_behind_default env g)

/-- Options and files without the subcommand. -/
theorem parse_unnamed (hfirst : ∀ first, (fileNames files).head? = some first →
      first ≠ "default" ∧ first ≠ "help") :
    parse env ("launch" :: (optionWords options ++ fileNames files)) =
      (given options files).map (ofGiven env .explicit) := by
  have hsub : ∀ f, (options.map Item.option ++ files.map Item.file).head? = some (.file f) →
      State.start.subcommand? .launch f.name = none := by
    intro f hf
    have hhead : (fileNames files).head? = some f.name := by
      cases options with
      | nil =>
          have hfile : files.head? = some f := by simpa using hf
          simp [fileNames, hfile]
      | cons o options => simp at hf
    obtain ⟨hdefault, hhelp⟩ := hfirst f.name hhead
    simp [State.subcommand?, Level.subcommand?, Level.below?, hdefault, hhelp]
  rw [← flatMap_words, parse_implied env hsub]
  change (given options files).map (ofGiven env .launch) = _
  cases hg : given options files with
  | error f => rfl
  | ok g =>
      obtain ⟨-, rfl⟩ := given_ok_iff.mp hg
      exact congrArg Except.ok (ofGiven_launch env fun h => (hfirst _ h).1 rfl)

end Forms

/-- The word for the implied subcommand makes no difference to what options and files ask for, nor
to the fault if there is one: it may stand in front of the options or between them, and be left out
if the first file is not named like a subcommand. What is asked for is known if each option is given
once, with a value that it accepts, and no file has the empty name; then it has all files that are
named, even those with the name of the subcommand. -/
theorem implied_subcommand_is_transparent (env : Environment) (before after : List Occurrence)
    (files : List FileWord) :
    let options := optionWords before ++ optionWords after
    let explicit := parse env ("launch" :: "default" :: (options ++ fileNames files))
    parse env ("launch" :: (optionWords before ++
        "default" :: (optionWords after ++ fileNames files))) = explicit ∧
      ((∀ first, (fileNames files).head? = some first → first ≠ "default" ∧ first ≠ "help") →
        parse env ("launch" :: (options ++ fileNames files)) = explicit) ∧
      ∀ inv, explicit = .ok inv ↔
        Lawful (before ++ after) files ∧ inv = asking env (before ++ after) files := by
  intro options explicit
  have hoptions : options = optionWords (before ++ after) := List.flatMap_append.symm
  have hexplicit : explicit = (given (before ++ after) files).map (ofGiven env .explicit) := by
    rw [← parse_named, ← hoptions]
  refine ⟨?_, fun hfirst => ?_, fun inv => ?_⟩
  · rw [parse_between, hexplicit]
  · rw [hoptions, parse_unnamed env _ files hfirst, hexplicit]
  · rw [hexplicit]
    constructor
    · intro hok
      cases hg : given (before ++ after) files with
      | error f =>
          rw [hg] at hok
          cases hok
      | ok g =>
          rw [hg] at hok
          obtain ⟨hlawful, rfl⟩ := given_ok_iff.mp hg
          obtain rfl := Except.ok.inj hok
          exact ⟨hlawful, ofGiven_explicit env _ files⟩
    · rintro ⟨hlawful, rfl⟩
      rw [given_ok_iff.mpr ⟨hlawful, rfl⟩]
      exact congrArg Except.ok (ofGiven_explicit env _ files)

/-- A file with the name of the subcommand is kept if it is not the first one, or if the subcommand
is named. -/
theorem implied_subcommand_for_sample :
    let env : Environment := ⟨none, some "http://[::1]", none⟩
    let asked : List String → Invocation := fun files =>
      ⟨some "http://[::1]", some "key", .release, ⟨files, some "desk", none⟩⟩
    parse env ["launch", "-kkey", "--cluster", "desk", "job.yaml", "default"] =
        .ok (asked ["job.yaml", "default"]) ∧
      parse env ["launch", "-kkey", "default", "--cluster", "desk", "job.yaml", "default"] =
        .ok (asked ["job.yaml", "default"]) ∧
      parse env ["launch", "-kkey", "default", "--cluster", "desk", "default", "job.yaml"] =
        .ok (asked ["default", "job.yaml"]) := by
  intro env asked
  let key : Occurrence :=
    ⟨.apiKey, "key", ["-kkey"], @Spelled.shortAttached .apiKey _ 'k' rfl (by decide) (by decide)⟩
  let cluster : Occurrence := ⟨.cluster, "desk", ["--cluster", "desk"], .long (by decide)⟩
  let job : FileWord := ⟨"job.yaml", by decide⟩
  let default : FileWord := ⟨"default", by decide⟩
  obtain ⟨hbetween, hunnamed, hok⟩ :=
    implied_subcommand_is_transparent env [key] [cluster] [job, default]
  obtain ⟨hbetween', -, hok'⟩ :=
    implied_subcommand_is_transparent env [key] [cluster] [default, job]
  have hasked := (hok (asked ["job.yaml", "default"])).mpr
    ⟨⟨by decide, by decide, by decide⟩, by decide⟩
  have hasked' := (hok' (asked ["default", "job.yaml"])).mpr
    ⟨⟨by decide, by decide, by decide⟩, by decide⟩
  have hfirst : ∀ first, (fileNames [job, default]).head? = some first →
      first ≠ "default" ∧ first ≠ "help" := by
    rintro first ⟨⟩
    decide
  exact ⟨(hunnamed hfirst).trans hasked, hbetween.trans hasked, hbetween'.trans hasked'⟩

end Invocation

end LaunchDesk
