import LaunchDesk.Proofs.CommandLine.Blindness

/-!
# How an option is spelled

An option stands on the command line by its long name or by its letter, with its value in a word of
its own or attached. In front of the mark, and below the level of the program, a word that names an
option begins it, whatever has been read before.
-/

namespace LaunchDesk.CommandLine

/-- A word that names an option, perhaps with a value attached. -/
inductive Names (o : Opt) : String → Option String → Prop
  | short {word : String} {letter : Char} {rest : List Char} (hletter : o.letter? = some letter)
      (h : Word.of word = .short letter rest) : Names o word (State.attachedValue? rest)
  | long {word : String} {attached : Option (List Char)}
      (h : Word.of word = .long o.long.toList attached) :
      Names o word (attached.map String.ofList)

/-- The words that say an option with its value. In a word of its own the value must not look like
an option. Right behind the letter there must be something, and an equals sign there is no part of
the value. -/
inductive Spelled (o : Opt) (value : String) : List String → Prop
  | long (plain : Word.of value = .plain) : Spelled o value ["--" ++ o.long, value]
  | longEquals : Spelled o value ["--" ++ o.long ++ "=" ++ value]
  | short {letter : Char} (hletter : o.letter? = some letter) (plain : Word.of value = .plain) :
      Spelled o value [String.ofList ['-', letter], value]
  | shortAttached {letter : Char} (hletter : o.letter? = some letter) (nonempty : value ≠ "")
      (noEquals : value.toList.head? ≠ some '=') :
      Spelled o value [String.ofList ('-' :: letter :: value.toList)]
  | shortEquals {letter : Char} (hletter : o.letter? = some letter) :
      Spelled o value [String.ofList ('-' :: letter :: '=' :: value.toList)]

section Options

variable {level : Level} {o : Opt} {letter : Char}

theorem longOption?_long (hlevel : level ≠ .program) (o : Opt) :
    level.longOption? o.long.toList = some o := by
  cases level with
  | program => exact absurd rfl hlevel
  | launch | explicit => cases o <;> decide

theorem shortOption?_letter (hlevel : level ≠ .program) (hletter : o.letter? = some letter) :
    level.shortOption? letter = some o := by
  cases level with
  | program => exact absurd rfl hlevel
  | launch | explicit => cases o <;> cases hletter <;> decide

theorem letter_ne_dash (hletter : o.letter? = some letter) : letter ≠ '-' := by
  cases o <;> cases hletter <;> decide

end Options

section Names

variable {o : Opt} {word value : String} {attached : Option String} {level : Level} {s : State}
  {words : List String}

theorem attachedValue?_toList (hne : value ≠ "") (hfirst : value.toList.head? ≠ some '=') :
    State.attachedValue? value.toList = some value := by
  unfold State.attachedValue?
  split
  · next hnil => exact absurd (by simpa using hnil) hne
  · next rest hcons => simp [hcons] at hfirst
  · simp

theorem Names.not_plain (h : Names o word attached) : Word.of word ≠ .plain := by
  cases h with
  | short _ h => simp [h]
  | long h => simp [h]

/-- A word that looks like an option is no subcommand. -/
theorem subcommand?_of_not_plain (h : Word.of word ≠ .plain) :
    s.subcommand? level word = none := by
  have hnone : level.subcommand? word = none := by
    have hlaunch : word ≠ "launch" := fun he => h (he ▸ by decide)
    have hdefault : word ≠ "default" := fun he => h (he ▸ by decide)
    have hhelp : word ≠ "help" := fun he => h (he ▸ by decide)
    cases level with
    | program => simp [Level.subcommand?, Level.below?, hlaunch, hhelp]
    | launch => simp [Level.subcommand?, Level.below?, hdefault, hhelp]
    | explicit => rfl
  simp [State.subcommand?, hnone]

/-- Behind an option there is no level below. -/
theorem subcommand?_of_begun (hlevel : level ≠ .program) (hb : s.begun = true) (word : String) :
    s.subcommand? level word = none := by
  cases level with
  | program => exact absurd rfl hlevel
  | launch => simp [State.subcommand?, Level.subcommandFirst, hb]
  | explicit => simp [State.subcommand?, Level.subcommand?, Level.below?]

/-- A word that names an option begins it. -/
theorem Names.read_eq (h : Names o word attached) (hlevel : level ≠ .program)
    (hm : s.marked = false) : s.read level word = s.beginOption o attached := by
  cases h with
  | short hletter h =>
      simp only [State.read, hm, h, State.readShort, shortOption?_letter hlevel hletter,
        Bool.false_eq_true, if_false]
  | long h =>
      simp only [State.read, hm, h, State.readLong, longOption?_long hlevel, Bool.false_eq_true,
        if_false]

theorem names_long (o : Opt) : Names o ("--" ++ o.long) none := by
  have hword : Word.of ("--" ++ o.long) = .long o.long.toList none := by
    cases o <;> decide
  exact .long hword

theorem names_longEquals (o : Opt) (value : String) :
    Names o ("--" ++ o.long ++ "=" ++ value) (some value) := by
  have hword : Word.of ("--" ++ o.long ++ "=" ++ value) =
      .long o.long.toList (some value.toList) := by
    cases o <;> simp [Word.of, Word.ofChars, Word.ofLong, Opt.long]
  simpa using Names.long hword

theorem word_short {letter : Char} (hletter : o.letter? = some letter) (rest : List Char) :
    Word.of (String.ofList ('-' :: letter :: rest)) = .short letter rest := by
  have hdash := letter_ne_dash hletter
  simp [Word.of, Word.ofChars, hdash]

/-- The value is either in a word of its own, behind one that names the option, or attached to that
word. -/
theorem Spelled.cases (h : Spelled o value words) :
    (∃ word, Names o word none ∧ Word.of value = .plain ∧ words = [word, value]) ∨
      ∃ word, Names o word (some value) ∧ words = [word] := by
  cases h with
  | long plain => exact Or.inl ⟨_, names_long o, plain, rfl⟩
  | longEquals => exact Or.inr ⟨_, names_longEquals o value, rfl⟩
  | short hletter plain => exact Or.inl ⟨_, .short hletter (word_short hletter []), plain, rfl⟩
  | shortAttached hletter nonempty noEquals =>
      refine Or.inr ⟨_, ?_, rfl⟩
      have hnames := Names.short hletter (word_short hletter value.toList)
      rwa [attachedValue?_toList nonempty noEquals] at hnames
  | shortEquals hletter =>
      refine Or.inr ⟨_, ?_, rfl⟩
      have hnames := Names.short hletter (word_short hletter ('=' :: value.toList))
      have hvalue : State.attachedValue? ('=' :: value.toList) = some value := by
        simp [State.attachedValue?]
      rwa [hvalue] at hnames

end Names

end LaunchDesk.CommandLine
