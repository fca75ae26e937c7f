import LaunchDesk.Invocation
import LaunchDesk.Proofs.CommandLine.Spelling

/-!
# The key on the command line

A key comes from the environment or from the command line, where it can be spelled in five ways. A
key on the command line is taken from there, wherever it stands in front of the mark; and two keys
at one place lead to invocations that differ in the key alone.

## Implementation notes

The words in front of a key lead to one state, whichever key comes then. The words for the key lead
from there to states that are the same without it, and once a state has a key it keeps it: there is
no room for a second one, nor for a level below.
-/

namespace LaunchDesk

namespace CommandLine

namespace State

/-- A key is given, or stands behind its option. -/
def HasKey (s : State) (key : String) : Prop :=
  s.given.value? .apiKey = some key ∨ s.pending = .option .apiKey (some key)

/-- What no word but the mark changes in a state for good. -/
structure Keeps (s t : State) : Prop where
  marked : t.marked = s.marked
  begun : s.begun = true → t.begun = true
  hasKey : ∀ key, s.HasKey key → t.HasKey key

variable {s t : State} {o : Opt} {level : Level} {word key : String}

theorem value?_put (s : State) (o other : Opt) (value : String) :
    (s.put o value).given.value? other =
      (s.given.value? other).or (if o = other then some value else none) := by
  have hlast : ([(o, value)].find? fun p => p.1 == other) =
      if o = other then some (o, value) else none := by
    by_cases ho : o = other
    · simp [ho]
    · simp [ho]
  simp only [Given.value?, put, List.find?_append, hlast, Option.map_or]
  split <;> rfl

/-- To settle what is pending gives the key. -/
theorem settle_hasKey (h : s.settle = .ok t) (hk : s.HasKey key) :
    t.given.value? .apiKey = some key := by
  rcases settle_cases h with ⟨hp, rfl⟩ | ⟨o, value, hp, htake⟩ | ⟨names, hp, -, rfl⟩
  · simpa [HasKey, hp] using hk
  · obtain ⟨hnone, -, rfl⟩ := take_cases htake
    rw [value?_put]
    rcases hk with hgiven | hpending
    · simp [hgiven]
    · rw [hp] at hpending
      cases hpending
      simp [hnone]
  · simpa [HasKey, hp, Given.value?] using hk

theorem settle_keeps (h : s.settle = .ok t) : s.Keeps t := by
  have hkey : ∀ key, s.HasKey key → t.HasKey key := fun key hk => Or.inl (settle_hasKey h hk)
  rcases settle_cases h with ⟨-, rfl⟩ | ⟨o, value, -, htake⟩ | ⟨names, -, -, rfl⟩
  · exact ⟨rfl, id, hkey⟩
  · obtain ⟨-, -, rfl⟩ := take_cases htake
    exact ⟨rfl, id, hkey⟩
  · exact ⟨rfl, id, hkey⟩

theorem beginOption_keeps {attached : Option String} (h : s.beginOption o attached = .ok t) :
    s.Keeps t := by
  obtain ⟨u, hu, h⟩ := ok_of_bind h
  have hbegun : u.begun = true := (settle_keeps hu).begun rfl
  have hmarked : u.marked = s.marked := (settle_keeps hu).marked
  have hkey : ∀ key, s.HasKey key → u.given.value? .apiKey = some key :=
    fun key hk => settle_hasKey hu hk
  cases attached with
  | none =>
      obtain rfl := Except.ok.inj h
      exact ⟨hmarked, fun _ => hbegun, fun key hk => Or.inl (hkey key hk)⟩
  | some value =>
      obtain ⟨-, -, rfl⟩ := take_cases h
      refine ⟨hmarked, fun _ => hbegun, fun key hk => Or.inl ?_⟩
      rw [value?_put, hkey key hk, Option.some_or]

theorem readFile_keeps (h : s.readFile word = .ok t) : s.Keeps t := by
  rcases readFile_cases h with ⟨names, hp, rfl⟩ | ⟨-, u, hu, rfl⟩
  · refine ⟨rfl, fun _ => rfl, fun key hk => ?_⟩
    simpa [HasKey, hp] using hk
  · have hkey : ∀ key, s.HasKey key → u.given.value? .apiKey = some key :=
      fun key hk => settle_hasKey hu hk
    exact ⟨(settle_keeps hu).marked, fun _ => rfl, fun key hk => Or.inl (hkey key hk)⟩

theorem readPositional_keeps (h : s.readPositional level word = .ok t) : s.Keeps t := by
  unfold readPositional at h
  split_ifs at h
  exact readFile_keeps h

/-- Only the mark changes more than what is kept. -/
theorem read_keeps (h : s.read level word = .ok t) :
    s.Keeps t ∨ (word = "--" ∧ t = { s with marked := true }) := by
  rcases read_cases h with h | hmark | ⟨o, attached, h⟩ | ⟨o, hp, rfl⟩
  · exact Or.inl (readPositional_keeps h)
  · exact Or.inr hmark
  · exact Or.inl (beginOption_keeps h)
  · refine Or.inl ⟨rfl, id, fun key hk => Or.inl ?_⟩
    simpa [HasKey, hp] using hk

end State

section Levels

variable {level : Level} {s t : State} {key : String} {l : List (Level × Given)}
  {words front : List String}

/-- A key is given at the level where it stands, and that level is the last one. -/
theorem readLevel_hasKey (hlevel : level ≠ .program) (hb : s.begun = true) (hk : s.HasKey key)
    (h : readLevel level s words = .ok l) :
    ∃ g, l = [(level, g)] ∧ g.value? .apiKey = some key := by
  induction words generalizing s with
  | nil =>
      obtain ⟨u, hu, rfl⟩ := readLevel_nil h
      exact ⟨u.given, rfl, State.settle_hasKey hu hk⟩
  | cons word words ih =>
      obtain ⟨u, hu, h⟩ := readLevel_word (subcommand?_of_begun hlevel hb word) h
      rcases State.read_keeps hu with hkeeps | ⟨-, rfl⟩
      · exact ih (hkeeps.begun hb) (hkeeps.hasKey key hk) h
      · exact ih (s := { s with marked := true }) hb hk h

/-- Words without the mark lead to one state in front of the mark, whatever comes behind them. -/
theorem readLevel_front (level : Level) (hs : s.marked = false) (hfront : "--" ∉ front) :
    ∃ (outer : List (Level × Given)) (below : Level) (t : State), t.marked = false ∧
      ∀ words l, readLevel level s (front ++ words) = .ok l →
        ∃ inner, readLevel below t words = .ok inner ∧ l = outer ++ inner := by
  induction front generalizing level s with
  | nil => exact ⟨[], level, s, hs, fun words l h => ⟨l, h, rfl⟩⟩
  | cons word front ih =>
      have hword : word ≠ "--" := fun he => hfront (he ▸ List.mem_cons_self)
      have hrest : "--" ∉ front := fun hm => hfront (List.mem_cons_of_mem word hm)
      cases hc : s.subcommand? level word with
      | none =>
          cases hr : s.read level word with
          | error f =>
              -- Nothing is read behind a word that is refused, so any state will do.
              refine ⟨[], level, s, hs, fun words l h => ?_⟩
              obtain ⟨u, hu, -⟩ := readLevel_word hc h
              rw [hr] at hu
              cases hu
          | ok u =>
              have hu : u.marked = false := by
                rcases State.read_keeps hr with hkeeps | ⟨hmark, -⟩
                · exact hkeeps.marked.trans hs
                · exact absurd hmark hword
              obtain ⟨outer, below, t, ht, hlead⟩ := ih level hu hrest
              refine ⟨outer, below, t, ht, fun words l h => ?_⟩
              obtain ⟨v, hv, h⟩ := readLevel_word hc h
              rw [hr] at hv
              obtain rfl := Except.ok.inj hv
              exact hlead words l h
      | some c =>
          cases c with
          | help =>
              exact ⟨[], level, s, hs, fun words l h => absurd h (readLevel_help hc)⟩
          | level below =>
              -- The level is left for good: it is settled behind those below it.
              obtain ⟨outer, lowest, t, ht, hlead⟩ :=
                ih below (s := .start) rfl hrest
              cases hu : s.settle with
              | error f =>
                  refine ⟨[], level, s, hs, fun words l h => ?_⟩
                  obtain ⟨inner, v, -, hv, -⟩ := readLevel_below hc h
                  rw [hu] at hv
                  cases hv
              | ok u =>
                  refine ⟨(level, u.given) :: outer, lowest, t, ht, fun words l h => ?_⟩
                  obtain ⟨inner, v, hinner, hv, rfl⟩ := readLevel_below hc h
                  rw [hu] at hv
                  obtain rfl := Except.ok.inj hv
                  obtain ⟨innermost, hread, rfl⟩ := hlead words inner hinner
                  exact ⟨innermost, hread, rfl⟩

end Levels

/-- The ways to spell a key on the command line. -/
inductive KeySpelling where
  /-- By the letter of the option, in a word of its own. -/
  | short
  /-- By the name of the option, in a word of its own. -/
  | long
  /-- Right behind the letter. -/
  | shortAttached
  /-- Behind the letter and an equals sign. -/
  | shortEquals
  /-- Behind the name and an equals sign. -/
  | longEquals
  deriving DecidableEq, Repr

/-- The words for a key. -/
def KeySpelling.words : KeySpelling → String → List String
  | short, key => ["-k", key]
  | long, key => ["--api_key", key]
  | shortAttached, key => ["-k" ++ key]
  | shortEquals, key => ["-k=" ++ key]
  | longEquals, key => ["--api_key=" ++ key]

/-- Whether a spelling says the key: right behind the letter there must be something, and an equals
sign there is no part of the key. -/
def KeySpelling.Spells : KeySpelling → String → Prop
  | shortAttached, key => key ≠ "" ∧ key.toList.head? ≠ some '='
  | short, _ | long, _ | shortEquals, _ | longEquals, _ => True

section Spelling

variable {key word : String} {attached : Option String} {level : Level} {s t : State}

/-- A spelling either has the key in a word of its own or attached to the option. -/
theorem KeySpelling.namesKey (spelling : KeySpelling) :
    (∃ word, Names .apiKey word none ∧ ∀ key, spelling.words key = [word, key]) ∨
      ∀ key, spelling.Spells key →
        ∃ word, Names .apiKey word (some key) ∧ spelling.words key = [word] := by
  cases spelling with
  | short =>
      have hword : Word.of "-k" = .short 'k' [] := by decide
      exact Or.inl ⟨_, .short rfl hword, fun key => rfl⟩
  | long => exact Or.inl ⟨_, names_long .apiKey, fun key => rfl⟩
  | shortAttached =>
      refine Or.inr fun key hspells => ⟨_, ?_, rfl⟩
      have hword : Word.of ("-k" ++ key) = .short 'k' key.toList := by
        simp [Word.of, Word.ofChars]
      exact attachedValue?_toList hspells.1 hspells.2 ▸ .short rfl hword
  | shortEquals =>
      refine Or.inr fun key _ => ⟨_, ?_, rfl⟩
      have hword : Word.of ("-k=" ++ key) = .short 'k' ('=' :: key.toList) := by
        simp [Word.of, Word.ofChars]
      have hvalue : State.attachedValue? ('=' :: key.toList) = some key := by
        simp [State.attachedValue?]
      exact hvalue ▸ .short rfl hword
  | longEquals =>
      refine Or.inr fun key _ => ⟨_, ?_, rfl⟩
      have hword : Word.of ("--api_key=" ++ key) = .long "api_key".toList (some key.toList) := by
        simp [Word.of, Word.ofChars, Word.ofLong]
      simpa using Names.long (o := .apiKey) hword

/-- In front of the mark the option of the key is begun, if the level has it. -/
theorem Names.beginOption_key (h : Names .apiKey word attached) (hm : s.marked = false)
    (hs : s.read level word = .ok t) :
    level ≠ .program ∧ s.beginOption .apiKey attached = .ok t := by
  have hlevel : level ≠ .program := by
    rintro rfl
    cases h with
    | short hletter h =>
        cases hletter
        simp only [State.read, hm, h, State.readShort, Bool.false_eq_true, if_false] at hs
        cases hs
    | long h =>
        simp only [State.read, hm, h, State.readLong, Bool.false_eq_true, if_false] at hs
        cases hs
  exact ⟨hlevel, h.read_eq hlevel hm ▸ hs⟩

end Spelling

section Awaiting

variable {level : Level} {s t : State} {o : Opt} {word : String} {words : List String}
  {l : List (Level × Given)}

theorem settle_awaiting (hp : s.pending = .option o none) : s.settle ≠ .ok t := by
  unfold State.settle
  rw [hp]
  rintro ⟨⟩

theorem beginOption_awaiting (hp : s.pending = .option o none) {other : Opt}
    {attached : Option String} : s.beginOption other attached ≠ .ok t := by
  intro h
  obtain ⟨u, hu, -⟩ := ok_of_bind h
  exact settle_awaiting (s := { s with begun := true }) hp hu

theorem readPositional_awaiting (hp : s.pending = .option o none) :
    s.readPositional level word ≠ .ok t := by
  intro h
  unfold State.readPositional at h
  split_ifs at h
  rcases State.readFile_cases h with ⟨names, hfiles, -⟩ | ⟨-, u, hu, -⟩
  · rw [hp] at hfiles
    cases hfiles
  · exact settle_awaiting hp hu

theorem readLevel_awaiting_marked (hp : s.pending = .option o none) (hm : s.marked = true) :
    readLevel level s words ≠ .ok l := by
  intro h
  cases words with
  | nil =>
      obtain ⟨u, hu, -⟩ := readLevel_nil h
      exact settle_awaiting hp hu
  | cons word words =>
      obtain ⟨u, hu, -⟩ := readLevel_word (by simp [State.subcommand?, hm]) h
      simp only [State.read, hm, if_true] at hu
      exact readPositional_awaiting hp hu

/-- An option that waits for its value takes the next word: the mark may stand there, but nothing
can be made of it then. -/
theorem readLevel_awaiting (hp : s.pending = .option o none)
    (h : readLevel level s (word :: words) = .ok l) :
    readLevel level { s with pending := .option o (some word) } words = .ok l := by
  have hawaits : s.awaitsValue = true := State.awaitsValue_iff.mpr ⟨o, hp⟩
  obtain ⟨u, hu, h⟩ := readLevel_word (by simp [State.subcommand?, hawaits]) h
  rcases State.read_cases hu with hword | ⟨-, rfl⟩ | ⟨other, attached, hbegin⟩ | ⟨o', hp', rfl⟩
  · exact absurd hword (readPositional_awaiting hp)
  · exact absurd h (readLevel_awaiting_marked hp rfl)
  · exact absurd hbegin (beginOption_awaiting hp)
  · rw [hp] at hp'
    cases hp'
    exact h

end Awaiting

section Lines

variable {spelling : KeySpelling} {key key₁ key₂ : String} {level : Level} {s : State}
  {l m : List (Level × Given)} {front back : List String}

/-- In front of the mark the words for a key lead to a state that has it and that is the same
without it, whatever the key is. -/
theorem readLevel_words (hs : s.marked = false) (hspells : spelling.Spells key)
    (h : readLevel level s (spelling.words key ++ back) = .ok l) :
    ∃ t u, State.settle { s with begun := true } = .ok t ∧
      u.withoutKey = { t.withoutKey with pending := .nothing } ∧
      level ≠ .program ∧ u.begun = true ∧ u.HasKey key ∧ readLevel level u back = .ok l := by
  rcases spelling.namesKey with ⟨word, hnames, hwords⟩ | hattached
  · simp only [hwords, List.cons_append, List.nil_append] at h
    obtain ⟨v, hv, h⟩ := readLevel_word (subcommand?_of_not_plain hnames.not_plain) h
    obtain ⟨hlevel, hbegin⟩ := hnames.beginOption_key hs hv
    obtain ⟨t, ht, hbegun⟩ := ok_of_bind hbegin
    obtain rfl := Except.ok.inj hbegun
    have hread := readLevel_awaiting (s := { t with pending := .option .apiKey none }) rfl h
    exact ⟨t, { t with pending := .option .apiKey (some key) }, ht, rfl, hlevel,
      (State.settle_keeps ht).begun rfl, Or.inr rfl, hread⟩
  · obtain ⟨word, hnames, hwords⟩ := hattached key hspells
    simp only [hwords, List.cons_append, List.nil_append] at h
    obtain ⟨v, hv, h⟩ := readLevel_word (subcommand?_of_not_plain hnames.not_plain) h
    obtain ⟨hlevel, hbegin⟩ := hnames.beginOption_key hs hv
    obtain ⟨t, ht, htake⟩ := ok_of_bind hbegin
    obtain ⟨hnone, -, rfl⟩ := State.take_cases htake
    refine ⟨t, t.put .apiKey key, ht, State.withoutKey_put_key t key, hlevel,
      (State.settle_keeps ht).begun rfl, Or.inl ?_, h⟩
    rw [State.value?_put, hnone]
    rfl

/-- A key in front of the mark is the key of the innermost level. -/
theorem read_hasKey (hfront : "--" ∉ front) (hspells : spelling.Spells key)
    (h : read (front ++ (spelling.words key ++ back)) = .ok l) :
    ∃ outer level g, l = outer ++ [(level, g)] ∧ g.value? .apiKey = some key := by
  obtain ⟨outer, level, s, hs, hlead⟩ := readLevel_front .program (s := .start) rfl hfront
  obtain ⟨inner, hinner, rfl⟩ := hlead _ l h
  obtain ⟨t, u, -, -, hlevel, hbegun, hkey, hu⟩ := readLevel_words hs hspells hinner
  obtain ⟨g, rfl, hg⟩ := readLevel_hasKey hlevel hbegun hkey hu
  exact ⟨outer, level, g, rfl, hg⟩

/-- Two keys at one place in front of the mark make no other difference. -/
theorem read_eq_withoutKey (hfront : "--" ∉ front) (hspells₁ : spelling.Spells key₁)
    (hspells₂ : spelling.Spells key₂)
    (hl : read (front ++ (spelling.words key₁ ++ back)) = .ok l)
    (hm : read (front ++ (spelling.words key₂ ++ back)) = .ok m) :
    withoutKey l = withoutKey m := by
  obtain ⟨outer, level, s, hs, hlead⟩ := readLevel_front .program (s := .start) rfl hfront
  obtain ⟨inner₁, hinner₁, rfl⟩ := hlead _ l hl
  obtain ⟨inner₂, hinner₂, rfl⟩ := hlead _ m hm
  obtain ⟨t, u₁, ht, hsame₁, -, -, -, hu₁⟩ := readLevel_words hs hspells₁ hinner₁
  obtain ⟨t', u₂, ht', hsame₂, -, -, -, hu₂⟩ := readLevel_words hs hspells₂ hinner₂
  obtain rfl : t = t' := Except.ok.inj (ht.symm.trans ht')
  have hinner := readLevel_eq_withoutKey (hsame₁.trans hsame₂.symm) hu₁ hu₂
  simp only [withoutKey, List.map_append] at hinner ⊢
  rw [hinner]

end Lines

end CommandLine

namespace Invocation

open CommandLine

/-- Where a key is given: in the environment, or at a place of the command line. -/
inductive KeyPlace where
  /-- In the environment, with a command line. -/
  | environment (words : List String)
  /-- Between two parts of a command line. -/
  | commandLine (spelling : KeySpelling) (front back : List String)
  deriving DecidableEq, Repr

namespace KeyPlace

/-- The environment when a key is given at a place. -/
def environmentWith : KeyPlace → Environment → String → Environment
  | environment _, env, key => { env with apiKey := some key }
  | commandLine .., env, _ => env

/-- The command line when a key is given at a place. -/
def wordsWith : KeyPlace → String → List String
  | environment words, _ => words
  | commandLine spelling front back, key => front ++ (spelling.words key ++ back)

/-- Whether a place is one for keys: in the environment it is if the command line gives no key of
its own, and on the command line if it is in front of the mark. -/
def Passes (env : Environment) : KeyPlace → String → Prop
  | environment words, _ =>
      ∃ inv, parse { env with apiKey := none } words = .ok inv ∧ inv.apiKey = none
  | commandLine spelling front _, key => "--" ∉ front ∧ spelling.Spells key

/-- A key that is given at a place for keys. -/
structure Gives (place : KeyPlace) (env : Environment) (key : String) (inv : Invocation) :
    Prop where
  parse : parse (place.environmentWith env key) (place.wordsWith key) = .ok inv
  passes : place.Passes env key

end KeyPlace

/-- The same is asked for, with another key. -/
def withKey (inv : Invocation) (key : String) : Invocation :=
  { inv with apiKey := some key }

section Parsing

variable {env : Environment} {levels l m : List (Level × Given)} {inv inv₁ inv₂ : Invocation}

theorem innermostUrl?_withoutKey :
    innermostUrl? (CommandLine.withoutKey levels) = innermostUrl? levels := by
  have hurl : ∀ g : Given, g.withoutKey.value? .platformUrl = g.value? .platformUrl :=
    fun g => Given.value?_withoutKey (by decide)
  simp only [innermostUrl?, CommandLine.withoutKey, List.foldl_map, hurl]

theorem inner_withoutKey (url : Option String) (level : Level) (g : Given) (key : Option String) :
    ofLevels.inner { env with apiKey := key } url level g.withoutKey =
      { ofLevels.inner env url level g with apiKey := key } := by
  have hvalue : ∀ o, o ≠ .apiKey → g.withoutKey.value? o = g.value? o :=
    fun o => Given.value?_withoutKey
  have hkey : g.withoutKey.value? .apiKey = none := by
    simp [Given.value?, Given.withoutKey]
  simp only [ofLevels.inner, versionAt, hvalue .version (by decide), hvalue .cluster (by decide),
    hvalue .group (by decide), hkey, Option.none_or]
  rfl

/-- Without a key on the command line, the key that is asked for is that of the environment, and all
else is the same. -/
theorem ofLevels_withoutKey (key : Option String) (h : ofLevels env levels = .ok inv) :
    ofLevels { env with apiKey := key } (CommandLine.withoutKey levels) =
      .ok { inv with apiKey := key } := by
  have hlast : (CommandLine.withoutKey levels).getLast? =
      levels.getLast?.map fun p => (p.1, p.2.withoutKey) := List.getLast?_map
  unfold ofLevels at h ⊢
  rw [innermostUrl?_withoutKey, hlast]
  split at h
  · next g hg =>
      obtain rfl := Except.ok.inj h
      simp only [hg, Option.map_some, inner_withoutKey]
  · next g hg =>
      obtain rfl := Except.ok.inj h
      simp only [hg, Option.map_some, inner_withoutKey]
  · cases h

/-- A key on the innermost level wins over the one in the environment. -/
theorem ofLevels_apiKey (h : ofLevels env levels = .ok inv) :
    ∃ level g, levels.getLast? = some (level, g) ∧
      inv.apiKey = (g.value? .apiKey).or env.apiKey := by
  unfold ofLevels at h
  split at h
  · next g hg =>
      obtain rfl := Except.ok.inj h
      exact ⟨.launch, g, hg, rfl⟩
  · next g hg =>
      obtain rfl := Except.ok.inj h
      exact ⟨.explicit, g, hg, rfl⟩
  · cases h

/-- Levels and environments that are the same without the key ask for the same but the key. -/
theorem ofLevels_congr {other : Environment}
    (henv : { env with apiKey := none } = { other with apiKey := none })
    (h : CommandLine.withoutKey l = CommandLine.withoutKey m)
    (h₁ : ofLevels env l = .ok inv₁) (h₂ : ofLevels other m = .ok inv₂) :
    inv₂ = { inv₁ with apiKey := inv₂.apiKey } := by
  have hsame := ofLevels_withoutKey none h₁
  rw [henv, h, ofLevels_withoutKey none h₂] at hsame
  have hinv : { inv₂ with apiKey := none } = { inv₁ with apiKey := none } := Except.ok.inj hsame
  exact congrArg (fun inv => { inv with apiKey := inv₂.apiKey }) hinv

/-- A key that is given is taken. -/
theorem KeyPlace.Gives.apiKey {place : KeyPlace} {key : String} (h : place.Gives env key inv) :
    inv.apiKey = some key := by
  obtain ⟨l, hl, hinv⟩ := ok_of_bind h.parse
  have hpasses := h.passes
  cases place with
  | environment words =>
      obtain ⟨other, hother, hnone⟩ := hpasses
      obtain ⟨l', hl', hother⟩ := ok_of_bind hother
      obtain rfl : l = l' := Except.ok.inj (hl.symm.trans hl')
      obtain ⟨level, g, hlast, hkey⟩ := ofLevels_apiKey hinv
      obtain ⟨level', g', hlast', hkey'⟩ := ofLevels_apiKey hother
      obtain ⟨rfl, rfl⟩ := Prod.mk.inj (Option.some.inj (hlast.symm.trans hlast'))
      rw [hnone, eq_comm, Option.or_eq_none_iff] at hkey'
      rw [hkey, hkey'.1]
      rfl
  | commandLine spelling front back =>
      obtain ⟨hfront, hspells⟩ := hpasses
      obtain ⟨outer, level, g, rfl, hg⟩ := read_hasKey hfront hspells hl
      obtain ⟨level', g', hlast, hkey⟩ := ofLevels_apiKey hinv
      rw [List.getLast?_concat] at hlast
      obtain ⟨rfl, rfl⟩ := Prod.mk.inj (Option.some.inj hlast)
      rw [hkey, hg, Option.some_or]

/-- Two keys that are given at one place are all that differs between what is asked for with the one
and with the other. -/
theorem KeyPlace.Gives.eq_withKey {place : KeyPlace} {key₁ key₂ : String}
    (h₁ : place.Gives env key₁ inv₁) (h₂ : place.Gives env key₂ inv₂) :
    inv₂ = inv₁.withKey key₂ := by
  rw [withKey, ← h₂.apiKey]
  obtain ⟨l, hl, hinv₁⟩ := ok_of_bind h₁.parse
  obtain ⟨m, hm, hinv₂⟩ := ok_of_bind h₂.parse
  have hpasses₁ := h₁.passes
  have hpasses₂ := h₂.passes
  cases place with
  | environment words =>
      obtain rfl : l = m := Except.ok.inj (hl.symm.trans hm)
      refine ofLevels_congr ?_ rfl hinv₁ hinv₂
      rfl
  | commandLine spelling front back =>
      have hsame := read_eq_withoutKey hpasses₁.1 hpasses₁.2 hpasses₂.2 hl hm
      exact ofLevels_congr rfl hsame hinv₁ hinv₂

end Parsing

end Invocation

end LaunchDesk
