import LaunchDesk.CommandLine.Parser
import Mathlib.Tactic.SplitIfs

/-!
# Reading a command line without the key

What is read from a command line does not depend on the value of the key: states that are the same
without the key are read on to levels that are the same without it.

## Implementation notes

The step of a state that takes a word may succeed without the key where it fails with it, as a key
must not be given twice. So a step is called blind if whatever it makes of a state it also makes of
the state without the key, but not the other way round; that is enough to compare two readings that
both succeed.
-/

namespace LaunchDesk

namespace CommandLine

theorem ok_of_bind {ε α β : Type} {x : Except ε α} {f : α → Except ε β} {b : β}
    (h : x >>= f = .ok b) : ∃ a, x = .ok a ∧ f a = .ok b := by
  cases x with
  | ok a => exact ⟨a, rfl, h⟩
  | error e => cases h

theorem Word.eq_of_mark {word : String} (h : Word.of word = .mark) : word = "--" := by
  unfold Word.of Word.ofChars at h
  split at h
  · next hchars => exact String.toList_inj.mp hchars
  · cases h
  · cases h
  · cases h

/-- What is given apart from the key. -/
def Given.withoutKey (g : Given) : Given :=
  { g with options := g.options.filter fun p => p.1 ≠ .apiKey }

/-- What is not settled apart from the key. -/
def Pending.withoutKey : Pending → Pending
  | .option .apiKey (some _) => .nothing
  | pending => pending

namespace State

/-- The state apart from the key. -/
def withoutKey (s : State) : State :=
  { s with given := s.given.withoutKey, pending := s.pending.withoutKey }

/-- A state in which an option has its value. -/
def put (s : State) (o : Opt) (value : String) : State :=
  { s with
    given := { s.given with options := s.given.options ++ [(o, value)] }
    pending := .nothing }

end State

section Values

variable {g : Given} {o : Opt}

theorem Given.value?_withoutKey (ho : o ≠ .apiKey) : g.withoutKey.value? o = g.value? o := by
  have hfind : ((g.options.filter fun p => p.1 ≠ .apiKey).find? fun p => p.1 == o) =
      g.options.find? fun p => p.1 == o := by
    rw [List.find?_filter]
    congr 1
    funext p
    by_cases hp : p.1 = o
    · simp [hp, ho]
    · simp [hp]
  rw [value?, value?, withoutKey, hfind]

theorem Given.value?_withoutKey_eq_none (h : g.value? o = none) :
    g.withoutKey.value? o = none := by
  by_cases ho : o = .apiKey
  · subst ho
    simp [value?, withoutKey]
  · rwa [value?_withoutKey ho]

end Values

namespace State

variable {s t a b : State} {o : Opt} {level : Level} {word : String}

section Settled

/-- An option is taken once, with a value that it accepts. -/
theorem take_cases {value : String} (h : s.take o value = .ok a) :
    s.given.value? o = none ∧ o.accepts value = true ∧ a = s.put o value := by
  unfold take at h
  split_ifs at h with hgiven haccepts
  exact ⟨by simpa using hgiven, haccepts, (Except.ok.inj h).symm⟩

/-- What can be settled: nothing, an option with its value, or file names none of which is empty. -/
theorem settle_cases (h : s.settle = .ok a) :
    (s.pending = .nothing ∧ a = s) ∨
      (∃ o value, s.pending = .option o (some value) ∧ s.take o value = .ok a) ∨
      ∃ names, s.pending = .files names ∧ names.contains "" = false ∧ a = { s with
        given := { s.given with files := s.given.files ++ names }
        pending := .nothing } := by
  unfold settle at h
  cases hp : s.pending with
  | nothing =>
      rw [hp] at h
      exact Or.inl ⟨rfl, (Except.ok.inj h).symm⟩
  | option o value =>
      cases value with
      | none =>
          rw [hp] at h
          cases h
      | some value =>
          rw [hp] at h
          exact Or.inr (Or.inl ⟨o, value, rfl, h⟩)
  | files names =>
      simp only [hp] at h
      split_ifs at h with hempty
      exact Or.inr (Or.inr ⟨names, rfl, Bool.eq_false_iff.mpr hempty, (Except.ok.inj h).symm⟩)

theorem take_withoutKey {value : String} (h : s.take o value = .ok a) :
    s.withoutKey.take o value = .ok (s.withoutKey.put o value) := by
  obtain ⟨hnone, haccepts, -⟩ := take_cases h
  have hnone' : s.withoutKey.given.value? o = none := Given.value?_withoutKey_eq_none hnone
  unfold take
  rw [hnone', if_neg (by simp), if_pos haccepts]
  rfl

theorem withoutKey_put_withoutKey (s : State) (o : Opt) (value : String) :
    (s.withoutKey.put o value).withoutKey = (s.put o value).withoutKey := by
  simp [withoutKey, put, Given.withoutKey]

theorem withoutKey_put_key (s : State) (value : String) :
    (s.put .apiKey value).withoutKey = { s.withoutKey with pending := .nothing } := by
  simp [withoutKey, put, Given.withoutKey, Pending.withoutKey]

theorem withoutKey_put (ho : o ≠ .apiKey) (s : State) (value : String) :
    (s.put o value).withoutKey = s.withoutKey.put o value := by
  simp [withoutKey, put, Given.withoutKey, Pending.withoutKey, ho]

/-- To settle what is pending does not take the key. -/
theorem settle_withoutKey (h : s.settle = .ok a) : s.withoutKey.settle = .ok a.withoutKey := by
  rcases settle_cases h with ⟨hp, rfl⟩ | ⟨o, value, hp, htake⟩ | ⟨names, hp, hempty, rfl⟩
  · simp [settle, withoutKey, Pending.withoutKey, hp]
  · obtain ⟨-, -, rfl⟩ := take_cases htake
    by_cases ho : o = .apiKey
    · subst ho
      rw [withoutKey_put_key]
      simp [settle, withoutKey, Pending.withoutKey, hp]
    · have hpending : s.withoutKey.pending = .option o (some value) := by
        simp [withoutKey, Pending.withoutKey, hp, ho]
      rw [withoutKey_put ho, ← take_withoutKey htake]
      simp only [settle, hpending]
  · simpa [settle, withoutKey, Pending.withoutKey, Given.withoutKey, hp] using hempty

/-- A file name that no other one precedes comes behind what is pending. -/
theorem readFile_of_ne_files (h : ∀ names, s.pending ≠ .files names) (word : String) :
    s.readFile word = s.settle.map fun t => { t with pending := .files [word], begun := true } := by
  unfold readFile
  split
  · next names hp => exact absurd hp (h names)
  · rfl

theorem readFile_cases (h : s.readFile word = .ok a) :
    (∃ names, s.pending = .files names ∧
      a = { s with pending := .files (names ++ [word]), begun := true }) ∨
      (∀ names, s.pending ≠ .files names) ∧ ∃ t, s.settle = .ok t ∧
        a = { t with pending := .files [word], begun := true } := by
  by_cases hfiles : ∃ names, s.pending = .files names
  · obtain ⟨names, hp⟩ := hfiles
    simp only [readFile, hp] at h
    exact Or.inl ⟨names, hp, (Except.ok.inj h).symm⟩
  · have hne : ∀ names, s.pending ≠ .files names := not_exists.mp hfiles
    rw [readFile_of_ne_files hne] at h
    cases hs : s.settle with
    | error f =>
        rw [hs] at h
        cases h
    | ok t =>
        rw [hs] at h
        exact Or.inr ⟨hne, t, rfl, (Except.ok.inj h).symm⟩

theorem readFile_withoutKey (h : s.readFile word = .ok a) :
    s.withoutKey.readFile word = .ok a.withoutKey := by
  rcases readFile_cases h with ⟨names, hp, rfl⟩ | ⟨hne, t, ht, rfl⟩
  · simp [readFile, withoutKey, Pending.withoutKey, hp]
  · have hne' : ∀ names, s.withoutKey.pending ≠ .files names := by
      intro names hp
      simp only [withoutKey, Pending.withoutKey] at hp
      split at hp
      · cases hp
      · exact hne names hp
    rw [readFile_of_ne_files hne', settle_withoutKey ht]
    rfl

theorem readPositional_withoutKey (h : s.readPositional level word = .ok a) :
    s.withoutKey.readPositional level word = .ok a.withoutKey := by
  unfold readPositional at h ⊢
  split_ifs at h with htakes
  rw [if_pos htakes]
  exact readFile_withoutKey h

theorem askHelp_ne_ok : s.askHelp ≠ .ok a := by
  intro h
  obtain ⟨t, -, h⟩ := ok_of_bind h
  cases h

end Settled

/-- A step that does not look at the key. -/
def Blind (f : State → Except Fault State) : Prop :=
  ∀ ⦃s a : State⦄, f s = .ok a → ∃ b, f s.withoutKey = .ok b ∧ b.withoutKey = a.withoutKey

/-- A blind step takes states that are the same without the key to such states again. -/
theorem Blind.eq_withoutKey {f : State → Except Fault State} (hf : Blind f)
    (h : s.withoutKey = t.withoutKey) (hs : f s = .ok a) (ht : f t = .ok b) :
    a.withoutKey = b.withoutKey := by
  obtain ⟨c, hc, hca⟩ := hf hs
  obtain ⟨d, hd, hdb⟩ := hf ht
  rw [h, hd] at hc
  obtain rfl := Except.ok.inj hc
  rw [← hca, hdb]

section Reading

theorem withoutKey_withoutKey (s : State) : s.withoutKey.withoutKey = s.withoutKey := by
  have hpending : s.pending.withoutKey.withoutKey = s.pending.withoutKey := by
    cases s.pending with
    | option o value => cases o <;> cases value <;> rfl
    | nothing | files => rfl
  simp [withoutKey, Given.withoutKey, hpending]

theorem blind_settle : Blind settle := fun _ a h =>
  ⟨a.withoutKey, settle_withoutKey h, withoutKey_withoutKey a⟩

theorem blind_beginOption (o : Opt) (attached : Option String) :
    Blind fun s => s.beginOption o attached := by
  intro s a h
  obtain ⟨t, ht, h⟩ := ok_of_bind h
  have hsettled : settle { s.withoutKey with begun := true } = .ok t.withoutKey :=
    settle_withoutKey ht
  cases attached with
  | none =>
      obtain rfl := Except.ok.inj h
      refine ⟨{ t.withoutKey with pending := .option o none }, ?_, ?_⟩
      · simp only [beginOption, hsettled]
        rfl
      · simp [withoutKey, Given.withoutKey]
  | some value =>
      obtain ⟨-, -, rfl⟩ := take_cases h
      refine ⟨t.withoutKey.put o value, ?_, withoutKey_put_withoutKey t o value⟩
      rw [← take_withoutKey h]
      simp only [beginOption, hsettled]
      rfl

theorem blind_readLong (level : Level) (name : List Char) (attached : Option (List Char)) :
    Blind fun s => s.readLong level name attached := by
  intro s a h
  unfold readLong at h ⊢
  split at h
  · exact blind_beginOption _ _ h
  · split_ifs at h
    exact absurd h askHelp_ne_ok

theorem blind_readShort (level : Level) (letter : Char) (rest : List Char) :
    Blind fun s => s.readShort level letter rest := by
  intro s a h
  unfold readShort at h ⊢
  split at h
  · exact blind_beginOption _ _ h
  · split_ifs at h
    exact absurd h askHelp_ne_ok

theorem awaitsValue_iff : s.awaitsValue ↔ ∃ o, s.pending = .option o none := by
  unfold awaitsValue
  split
  · next o hp => simp [hp]
  · next hne => simpa using hne

theorem awaitsValue_withoutKey : s.withoutKey.awaitsValue = s.awaitsValue := by
  have hpending : s.withoutKey.pending = s.pending.withoutKey := rfl
  unfold awaitsValue
  rw [hpending]
  cases s.pending with
  | option o value => cases o <;> cases value <;> rfl
  | nothing | files => rfl

/-- A word that no option waits for, and that looks like none, is a file name or out of place. -/
theorem read_of_plain (hm : s.marked = false) (hw : Word.of word = .plain)
    (hp : s.awaitsValue = false) : s.read level word = s.readPositional level word := by
  unfold read
  rw [hm, hw]
  simp only [Bool.false_eq_true, if_false]
  split
  · next o hpending => simp [awaitsValue, hpending] at hp
  · rfl

/-- What a word can be: a file name, the mark, the beginning of an option, or the value of one. -/
theorem read_cases (h : s.read level word = .ok a) :
    s.readPositional level word = .ok a ∨
      (word = "--" ∧ a = { s with marked := true }) ∨
      (∃ o attached, s.beginOption o attached = .ok a) ∨
      ∃ o, s.pending = .option o none ∧ a = { s with pending := .option o (some word) } := by
  unfold read at h
  split_ifs at h
  · exact Or.inl h
  · split at h
    · next hmark => exact Or.inr (Or.inl ⟨Word.eq_of_mark hmark, (Except.ok.inj h).symm⟩)
    · unfold readLong at h
      split at h
      · exact Or.inr (Or.inr (Or.inl ⟨_, _, h⟩))
      · split_ifs at h
        exact absurd h askHelp_ne_ok
    · unfold readShort at h
      split at h
      · exact Or.inr (Or.inr (Or.inl ⟨_, _, h⟩))
      · split_ifs at h
        exact absurd h askHelp_ne_ok
    · split at h
      · next o hp => exact Or.inr (Or.inr (Or.inr ⟨o, hp, (Except.ok.inj h).symm⟩))
      · exact Or.inl h

theorem blind_read (level : Level) (word : String) : Blind fun s => s.read level word := by
  intro s a h
  by_cases hm : s.marked = true
  · have hm' : s.withoutKey.marked = true := hm
    simp only [read, hm, hm', if_true] at h ⊢
    exact ⟨_, readPositional_withoutKey h, withoutKey_withoutKey a⟩
  · have hm' : s.withoutKey.marked = false := Bool.eq_false_iff.mpr hm
    cases hw : Word.of word with
    | mark =>
        simp only [read, hm, hm', hw] at h ⊢
        obtain rfl := Except.ok.inj h
        exact ⟨_, rfl, withoutKey_withoutKey { s with marked := true }⟩
    | long name attached =>
        simp only [read, hm, hm', hw] at h ⊢
        exact blind_readLong level name attached h
    | short letter rest =>
        simp only [read, hm, hm', hw] at h ⊢
        exact blind_readShort level letter rest h
    | plain =>
        cases hp : s.awaitsValue with
        | true =>
            obtain ⟨o, hp⟩ := awaitsValue_iff.mp hp
            have hp' : s.withoutKey.pending = .option o none := by
              simp [withoutKey, Pending.withoutKey, hp]
            simp only [read, hm, hm', hw, hp, hp'] at h ⊢
            obtain rfl := Except.ok.inj h
            exact ⟨_, rfl, by simp [withoutKey, Given.withoutKey]⟩
        | false =>
            have hp' : s.withoutKey.awaitsValue = false := by rw [awaitsValue_withoutKey, hp]
            simp only [read_of_plain (Bool.eq_false_iff.mpr hm) hw hp, read_of_plain hm' hw hp']
              at h ⊢
            exact ⟨_, readPositional_withoutKey h, withoutKey_withoutKey a⟩

theorem subcommand?_withoutKey :
    s.withoutKey.subcommand? level word = s.subcommand? level word := by
  simp only [subcommand?, awaitsValue_withoutKey]
  rfl

end Reading

end State

section Levels

variable {level : Level} {s t : State} {l m : List (Level × Given)} {word : String}
  {words : List String}

/-- What is given at some levels, apart from the key. -/
def withoutKey (levels : List (Level × Given)) : List (Level × Given) :=
  levels.map fun p => (p.1, p.2.withoutKey)

theorem readLevel_below {below : Level} (h : s.subcommand? level word = some (.level below))
    (hl : readLevel level s (word :: words) = .ok l) :
    ∃ inner u, readLevel below .start words = .ok inner ∧ s.settle = .ok u ∧
      l = (level, u.given) :: inner := by
  unfold readLevel at hl
  rw [h] at hl
  obtain ⟨inner, hinner, hl⟩ := ok_of_bind hl
  obtain ⟨u, hu, hl⟩ := ok_of_bind hl
  exact ⟨inner, u, hinner, hu, (Except.ok.inj hl).symm⟩

theorem readLevel_word (h : s.subcommand? level word = none)
    (hl : readLevel level s (word :: words) = .ok l) :
    ∃ u, s.read level word = .ok u ∧ readLevel level u words = .ok l := by
  unfold readLevel at hl
  rw [h] at hl
  exact ok_of_bind hl

theorem readLevel_nil (hl : readLevel level s [] = .ok l) :
    ∃ u, s.settle = .ok u ∧ l = [(level, u.given)] := by
  obtain ⟨u, hu, hl⟩ := ok_of_bind hl
  exact ⟨u, hu, (Except.ok.inj hl).symm⟩

theorem readLevel_help (h : s.subcommand? level word = some .help) :
    readLevel level s (word :: words) ≠ .ok l := by
  unfold readLevel
  rw [h]
  rintro ⟨⟩

/-- States that are the same without the key are read on to levels that are. -/
theorem readLevel_eq_withoutKey (h : s.withoutKey = t.withoutKey)
    (hl : readLevel level s words = .ok l) (hm : readLevel level t words = .ok m) :
    withoutKey l = withoutKey m := by
  induction words generalizing level s t l m with
  | nil =>
      obtain ⟨u, hu, rfl⟩ := readLevel_nil hl
      obtain ⟨v, hv, rfl⟩ := readLevel_nil hm
      have hgiven := congrArg State.given (State.blind_settle.eq_withoutKey h hu hv)
      exact congrArg (fun g => [(level, g)]) hgiven
  | cons word words ih =>
      have hsame : s.subcommand? level word = t.subcommand? level word := by
        rw [← State.subcommand?_withoutKey, h, State.subcommand?_withoutKey]
      cases hc : t.subcommand? level word with
      | none =>
          obtain ⟨u, hu, hl⟩ := readLevel_word (hsame.trans hc) hl
          obtain ⟨v, hv, hm⟩ := readLevel_word hc hm
          exact ih ((State.blind_read level word).eq_withoutKey h hu hv) hl hm
      | some c =>
          cases c with
          | help => exact absurd hm (readLevel_help hc)
          | level below =>
              obtain ⟨inner, u, hinner, hu, rfl⟩ := readLevel_below (hsame.trans hc) hl
              obtain ⟨inner', v, hinner', hv, rfl⟩ := readLevel_below hc hm
              rw [hinner] at hinner'
              obtain rfl := Except.ok.inj hinner'
              have hgiven := congrArg State.given (State.blind_settle.eq_withoutKey h hu hv)
              exact congrArg (fun g => (level, g) :: withoutKey inner) hgiven

end Levels

end CommandLine

end LaunchDesk
