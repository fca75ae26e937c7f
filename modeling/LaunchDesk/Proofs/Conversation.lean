import LaunchDesk.Proofs.Course
import LaunchDesk.Proofs.Files
import LaunchDesk.Session
import Mathlib.Data.List.TakeWhile

/-!
# Conversations at the terminal

The answers to the questions of a conversation are the lines of the input, one after the other,
whatever is said in between and with colours or without. A line is a yes if it is one of two words
in any case, with blanks around it, and a line that is no text is an answer that cannot be read.
What the user sees and answers in the run of a program is such a conversation.

## Implementation notes

A conversation has used up one line for each answer. This is the invariant of its steps, and the
input that is left then consists of the lines that are left. For the words it matters that their
letters are the lower case of ASCII letters only, which the table of capitals shows.
-/

namespace LaunchDesk

namespace Text

section Trimming

variable {α : Type} {test : α → Bool} {before word behind : List α}

/-- What is cut off at either end passes the test. -/
theorem exists_trimBy (test : α → Bool) (s : List α) :
    ∃ before behind, s = before ++ trimBy test s ++ behind ∧ (∀ a ∈ before, test a = true) ∧
      ∀ a ∈ behind, test a = true := by
  let middle := s.dropWhile test
  refine ⟨s.takeWhile test, (middle.reverse.takeWhile test).reverse, ?_,
    fun a => List.mem_takeWhile_imp, fun a ha => List.mem_takeWhile_imp (List.mem_reverse.mp ha)⟩
  have hmiddle : trimBy test s ++ (middle.reverse.takeWhile test).reverse = middle := by
    rw [trimBy, ← List.reverse_append, List.takeWhile_append_dropWhile, List.reverse_reverse]
  rw [List.append_assoc, hmiddle, List.takeWhile_append_dropWhile]

theorem dropWhile_append_of_head (hbefore : ∀ a ∈ before, test a = true) (hword : word ≠ [])
    (hhead : ∀ a, word.head? = some a → test a = false) :
    (before ++ (word ++ behind)).dropWhile test = word ++ behind := by
  rw [List.dropWhile_append_of_pos hbefore]
  cases word with
  | nil => exact absurd rfl hword
  | cons a word => rw [List.cons_append, List.dropWhile_cons_of_neg (by simp [hhead a rfl])]

/-- Nothing is cut off from a word whose ends fail the test. -/
theorem trimBy_of_ends (hbefore : ∀ a ∈ before, test a = true)
    (hbehind : ∀ a ∈ behind, test a = true) (hword : word ≠ [])
    (hhead : ∀ a, word.head? = some a → test a = false)
    (hlast : ∀ a, word.getLast? = some a → test a = false) :
    trimBy test (before ++ word ++ behind) = word := by
  have hback : (behind.reverse ++ (word.reverse ++ [])).dropWhile test = word.reverse ++ [] :=
    dropWhile_append_of_head (fun a ha => hbehind a (List.mem_reverse.mp ha)) (by simpa using hword)
      (by simpa using hlast)
  rw [List.append_nil] at hback
  rw [trimBy, List.append_assoc, dropWhile_append_of_head hbefore hword hhead, List.reverse_append,
    hback, List.reverse_reverse]

end Trimming

section LowerCase

/-- The letters of the words for yes. -/
def yesLetters : List Char :=
  ['y', 'e', 's']

variable {l c : Char} {before tail text : List Char}

theorem mem_yesLetters_iff : l ∈ yesLetters ↔ l = 'y' ∨ l = 'e' ∨ l = 's' := by
  simp [yesLetters]

/-- The lower case of a run of capitals is no letter of the words for yes, unless the run is that
of ASCII. -/
theorem capitalRuns_yesLetters (hl : l ∈ yesLetters) : ∀ run ∈ capitalRuns,
    run = (0x41, 0x5A, 1, 0x61) ∨ l.toNat < run.2.2.2 ∨
      run.1 = run.2.1 ∧ run.2.2.2 ≠ l.toNat := by
  rcases mem_yesLetters_iff.mp hl with rfl | rfl | rfl <;> decide +kernel

theorem toNat_ofNat (n : Nat) : (Char.ofNat n).toNat = n ∨ (Char.ofNat n).toNat = 0 := by
  by_cases h : n.isValidChar
  · exact Or.inl (congrArg Char.toNat (dif_pos h))
  · exact Or.inr (congrArg Char.toNat (dif_neg h))

theorem yesLetters_toNat (hl : l ∈ yesLetters) : l.toNat ≠ 0 := by
  rcases mem_yesLetters_iff.mp hl with rfl | rfl | rfl <;> decide

theorem yesLetters_toUpper (hl : l ∈ yesLetters) : Char.ofNat (l.toNat - 0x20) = l.toUpper := by
  rcases mem_yesLetters_iff.mp hl with rfl | rfl | rfl <;> decide

theorem lowerChar_yesLetters (hl : l ∈ yesLetters) :
    lowerChar l = [l] ∧ lowerChar l.toUpper = [l] := by
  rcases mem_yesLetters_iff.mp hl with rfl | rfl | rfl <;> decide

theorem sigma_yesLetters (hl : l ∈ yesLetters) : ¬ ('Σ' = l ∨ 'Σ' = l.toUpper) := by
  rcases mem_yesLetters_iff.mp hl with rfl | rfl | rfl <;> decide

theorem lowerChar_ne_nil (c : Char) : lowerChar c ≠ [] := by
  unfold lowerChar
  split_ifs
  · simp
  · split <;> simp

/-- Of all characters, only the two ASCII ones have the lower case of a letter of the words. -/
theorem lowerChar_yesLetter_iff (hl : l ∈ yesLetters) :
    lowerChar c = l :: tail ↔ (c = l ∨ c = l.toUpper) ∧ tail = [] := by
  constructor
  · intro h
    unfold lowerChar at h
    split_ifs at h with hdotted
    · obtain ⟨rfl, -⟩ := List.cons.inj h
      exact absurd hl (by decide)
    · split at h
      · next first last step lower hrun =>
          obtain ⟨hlower, rfl⟩ := List.cons.inj h
          have hmem := List.mem_of_find?_eq_some hrun
          have hrange := List.find?_some hrun
          simp only [Bool.and_eq_true, decide_eq_true_eq] at hrange
          obtain ⟨⟨hfirst, hlast⟩, -⟩ := hrange
          have hvalue : lower + (c.toNat - first) = l.toNat := by
            have hl' : l.toNat ≠ 0 := yesLetters_toNat hl
            rcases toNat_ofNat (lower + (c.toNat - first)) with hn | hn <;> rw [hlower] at hn
            · exact hn.symm
            · exact absurd hn hl'
          rcases capitalRuns_yesLetters hl _ hmem with hascii | habove | ⟨hone, hne⟩
          · cases hascii
            refine ⟨Or.inr ?_, rfl⟩
            have hc : c.toNat = l.toNat - 0x20 := by omega
            rw [← Char.ofNat_toNat c, hc]
            exact yesLetters_toUpper hl
          · exact absurd hvalue (by dsimp only at habove; omega)
          · exact absurd hvalue (by dsimp only at hone hne; omega)
      · next =>
          obtain ⟨rfl, rfl⟩ := List.cons.inj h
          exact ⟨Or.inl rfl, rfl⟩
  · rintro ⟨rfl | rfl, rfl⟩
    · exact (lowerChar_yesLetters hl).1
    · exact (lowerChar_yesLetters hl).2

theorem lowerBehind_eq_nil_iff : lowerBehind before text = [] ↔ text = [] := by
  cases text with
  | nil => exact iff_of_true rfl rfl
  | cons c rest =>
      simp only [lowerBehind]
      split_ifs
      · simp
      · simp [lowerChar_ne_nil]

/-- The lower case of a text begins with a letter of the words only if the text begins with that
letter in either case. -/
theorem lowerBehind_cons_iff (hl : l ∈ yesLetters) :
    lowerBehind before (c :: text) = l :: tail ↔
      (c = l ∨ c = l.toUpper) ∧ lowerBehind (c :: before) text = tail := by
  rw [lowerBehind]
  by_cases hc : c = 'Σ'
  · have hletter : ¬ (c = l ∨ c = l.toUpper) := hc ▸ sigma_yesLetters hl
    have hsigma : lowerSigma before text ≠ l := by
      unfold lowerSigma
      split_ifs
      · exact fun h => absurd (h ▸ hl) (by decide)
      · exact fun h => absurd (h ▸ hl) (by decide)
    rw [if_pos hc, List.singleton_append, List.cons.injEq]
    exact iff_of_false (fun h => hsigma h.1) (fun h => hletter h.1)
  · obtain ⟨d, more, hd⟩ := List.exists_cons_of_ne_nil (lowerChar_ne_nil c)
    rw [if_neg hc, hd, List.cons_append, List.cons.injEq]
    constructor
    · rintro ⟨rfl, htail⟩
      obtain ⟨hletter, rfl⟩ := (lowerChar_yesLetter_iff hl).mp hd
      exact ⟨hletter, htail⟩
    · rintro ⟨hletter, htail⟩
      have hsmall := (lowerChar_yesLetter_iff hl).mpr ⟨hletter, rfl⟩
      obtain ⟨rfl, rfl⟩ := List.cons.inj (hd.symm.trans hsmall)
      exact ⟨rfl, htail⟩

end LowerCase

/-- A word for yes, each of its letters in either case. -/
inductive IsYesWord : List Char → Prop
  | y {c : Char} (hc : c = 'y' ∨ c = 'Y') : IsYesWord [c]
  | yes {c d e : Char} (hc : c = 'y' ∨ c = 'Y') (hd : d = 'e' ∨ d = 'E') (he : e = 's' ∨ e = 'S') :
      IsYesWord [c, d, e]

/-- A word is one for yes exactly if it is `y` or `yes` in lower case. -/
theorem isYesWord_iff {word : List Char} :
    IsYesWord word ↔ lowerBehind [] word = ['y'] ∨ lowerBehind [] word = ['y', 'e', 's'] := by
  have hy : 'y' ∈ yesLetters := by decide
  have he : 'e' ∈ yesLetters := by decide
  have hs : 's' ∈ yesLetters := by decide
  constructor
  · rintro (hc | ⟨hc, hd, he'⟩)
    · exact Or.inl ((lowerBehind_cons_iff hy).mpr ⟨hc, rfl⟩)
    · refine Or.inr ((lowerBehind_cons_iff hy).mpr ⟨hc, ?_⟩)
      exact (lowerBehind_cons_iff he).mpr ⟨hd, (lowerBehind_cons_iff hs).mpr ⟨he', rfl⟩⟩
  · rcases word with _ | ⟨c, word⟩
    · simp [lowerBehind]
    rintro (h | h)
    · obtain ⟨hc, hnil⟩ := (lowerBehind_cons_iff hy).mp h
      obtain rfl := lowerBehind_eq_nil_iff.mp hnil
      exact .y hc
    · obtain ⟨hc, h⟩ := (lowerBehind_cons_iff hy).mp h
      rcases word with _ | ⟨d, word⟩
      · cases h
      obtain ⟨hd, h⟩ := (lowerBehind_cons_iff he).mp h
      rcases word with _ | ⟨e, word⟩
      · cases h
      obtain ⟨he', hnil⟩ := (lowerBehind_cons_iff hs).mp h
      obtain rfl := lowerBehind_eq_nil_iff.mp hnil
      exact .yes hc hd he'

theorem IsYesWord.ends {word : List Char} (h : IsYesWord word) : word ≠ [] ∧
    (∀ c, word.head? = some c → isBlank c = false) ∧
      ∀ c, word.getLast? = some c → isBlank c = false := by
  rcases h with (hc | ⟨hc, -, he⟩)
  · rcases hc with rfl | rfl <;> simp <;> decide
  · rcases hc with rfl | rfl <;> rcases he with rfl | rfl <;> simp <;> decide

/-- A text that is a word for yes with blanks around it. -/
def IsYes (text : List Char) : Prop :=
  ∃ before word behind, text = before ++ word ++ behind ∧ (∀ c ∈ before, isBlank c = true) ∧
    (∀ c ∈ behind, isBlank c = true) ∧ IsYesWord word

theorem isYes_iff {text : List Char} : IsYes text ↔ IsYesWord (trim text) := by
  constructor
  · rintro ⟨before, word, behind, rfl, hbefore, hbehind, hword⟩
    obtain ⟨hne, hhead, hlast⟩ := hword.ends
    rwa [trim, trimBy_of_ends hbefore hbehind hne hhead hlast]
  · intro hword
    obtain ⟨before, behind, htext, hbefore, hbehind⟩ := exists_trimBy isBlank text
    exact ⟨before, trim text, behind, htext, hbefore, hbehind, hword⟩

end Text

namespace Terminal

open Text

theorem saysYes_iff {text : String} : saysYes text = true ↔ IsYes text.toList := by
  rw [isYes_iff, isYesWord_iff, saysYes, Bool.or_eq_true, beq_iff_eq, beq_iff_eq, lowerCase,
    String.toList_ofList, ← String.toList_inj, ← String.toList_inj, String.toList_ofList]
  rfl

section Answers

variable {line : List UInt8}

/-- A line that is no text is an answer that cannot be read, and no other line is. -/
theorem answerOf_eq_error_iff : answerOf line = .error unreadable ↔ ¬ IsUtf8 line := by
  rw [isUtf8_iff, answerOf]
  cases ofUtf8? line <;> simp

/-- Of a line that is a text, the answer is a yes exactly if the text is one. -/
theorem answerOf_eq_ok_iff {yes : Bool} : answerOf line = .ok yes ↔
    ∃ text : List Char, text.flatMap String.utf8EncodeChar = line ∧ (yes = true ↔ IsYes text) := by
  constructor
  · intro h
    cases htext : ofUtf8? line with
    | none =>
        rw [answerOf, htext] at h
        cases h
    | some text =>
        rw [answerOf, htext] at h
        obtain rfl := Except.ok.inj h
        exact ⟨text.toList, ofUtf8?_eq_some_iff.mp htext, saysYes_iff⟩
  · rintro ⟨text, htext, hyes⟩
    have hread : ofUtf8? line = some (String.ofList text) :=
      ofUtf8?_eq_some_iff.mpr (by rwa [String.toList_ofList])
    rw [answerOf, hread, Except.ok.injEq, Bool.eq_iff_iff, saysYes_iff, hyes, String.toList_ofList]

end Answers

/-- The lines of an input. Each goes up to the next line end, which belongs to it; only the last one
may lack it, and then it is not empty. -/
inductive LinesOf : List UInt8 → List (List UInt8) → Prop
  | nil : LinesOf [] []
  | unended {text : List UInt8} (nonempty : text ≠ []) (plain : 10 ∉ text) : LinesOf text [text]
  | cons {text rest : List UInt8} {lines : List (List UInt8)} (plain : 10 ∉ text)
      (tail : LinesOf rest lines) : LinesOf (text ++ 10 :: rest) ((text ++ [10]) :: lines)

section Lines

variable {input text rest : List UInt8} {lines : List (List UInt8)}

theorem takeLine_of_not_mem (h : 10 ∉ text) : takeLine text = (text, []) := by
  induction text with
  | nil => rfl
  | cons b text ih =>
      obtain ⟨hb, htext⟩ := List.ne_and_not_mem_of_not_mem_cons h
      rw [takeLine, if_neg (Ne.symm hb), ih htext]

theorem takeLine_ended (h : 10 ∉ text) (rest : List UInt8) :
    takeLine (text ++ 10 :: rest) = (text ++ [10], rest) := by
  induction text with
  | nil => rfl
  | cons b text ih =>
      obtain ⟨hb, htext⟩ := List.ne_and_not_mem_of_not_mem_cons h
      rw [List.cons_append, takeLine, if_neg (Ne.symm hb), ih htext]
      rfl

theorem exists_linesOf (input : List UInt8) : ∃ lines, LinesOf input lines := by
  by_cases h : 10 ∈ input
  · obtain ⟨text, rest, hinput, hplain⟩ := List.eq_append_cons_of_mem h
    obtain ⟨lines, hlines⟩ := exists_linesOf rest
    exact ⟨(text ++ [10]) :: lines, hinput ▸ .cons hplain hlines⟩
  · by_cases hempty : input = []
    · exact ⟨[], hempty ▸ .nil⟩
    · exact ⟨[input], .unended hempty h⟩
  termination_by input.length
  decreasing_by simp [hinput]; omega

theorem LinesOf.flatten (h : LinesOf input lines) : lines.flatten = input := by
  induction h with
  | nil => rfl
  | unended => simp
  | cons _ _ ih => simp [ih]

/-- The first line is read, and the others are left; there is an empty line past the end. -/
theorem LinesOf.takeLine (h : LinesOf input lines) :
    (takeLine input).1 = lines.headD [] ∧ LinesOf (takeLine input).2 lines.tail := by
  cases h with
  | nil => exact ⟨rfl, .nil⟩
  | unended _ plain =>
      rw [takeLine_of_not_mem plain]
      exact ⟨rfl, .nil⟩
  | cons plain tail =>
      rw [takeLine_ended plain]
      exact ⟨rfl, tail⟩

end Lines

/-- Whether a step is a question. -/
def Step.isQuestion : Step → Bool
  | say _ => false
  | ask _ => true

/-- How many questions a conversation has. -/
def questions (steps : List Step) : Nat :=
  steps.countP Step.isQuestion

/-- A conversation that has used up one line for each of its answers. -/
structure Talk.Follows (lines : List (List UInt8)) (talk : Talk) : Prop where
  answers : ∀ k answer, talk.answers[k]? = some answer → answer = answerOf (lines.getD k [])
  input : LinesOf talk.input (lines.drop talk.answers.length)

section Conversation

variable {lines : List (List UInt8)} {talk : Talk}

/-- A question uses up a line, and a line that is said does not. -/
theorem Talk.Follows.step (h : talk.Follows lines) (colours : Bool) (step : Step) :
    (talk.step colours step).Follows lines ∧
      (talk.step colours step).answers.length = talk.answers.length + questions [step] := by
  cases step with
  | say line => exact ⟨⟨h.answers, h.input⟩, rfl⟩
  | ask question =>
      obtain ⟨hfirst, hrest⟩ := h.input.takeLine
      rw [List.headD_eq_head?_getD, List.head?_drop, ← List.getD_eq_getElem?_getD] at hfirst
      refine ⟨⟨fun k answer hk => ?_, ?_⟩, List.length_append⟩
      · simp only [Talk.step, List.getElem?_append] at hk
        split_ifs at hk with hlt
        · exact h.answers k answer hk
        · obtain ⟨hzero, hanswer⟩ : k - talk.answers.length = 0 ∧ _ := by
            simpa [List.getElem?_singleton] using hk
          obtain rfl : k = talk.answers.length := by omega
          rw [← hanswer, readAnswer, hfirst]
      · rw [List.tail_drop] at hrest
        simpa [Talk.step, readAnswer] using hrest

/-- So a whole conversation uses up as many lines as there are questions. -/
theorem Talk.Follows.foldl (h : talk.Follows lines) (colours : Bool) (steps : List Step) :
    (steps.foldl (Talk.step colours) talk).Follows lines ∧
      (steps.foldl (Talk.step colours) talk).answers.length =
        talk.answers.length + questions steps := by
  induction steps generalizing talk with
  | nil => exact ⟨h, rfl⟩
  | cons step steps ih =>
      obtain ⟨hstep, hlength⟩ := h.step colours step
      obtain ⟨hsteps, hcount⟩ := ih hstep
      refine ⟨hsteps, ?_⟩
      rw [List.foldl_cons, hcount, hlength]
      simp only [questions, List.countP_cons, List.countP_nil]
      omega

end Conversation

/-- The answers of a conversation are the lines of the input, one for each question, and the empty
line past the end; the input that is left consists of the other lines. An answer cannot be read if
its line is no text, and otherwise is a yes exactly if the text is a word for yes with blanks around
it. What is said in between and the colours do not matter. -/
theorem answers_are_lines (input : List UInt8) :
    ∃ lines, LinesOf input lines ∧ ∀ (colours : Bool) (steps : List Step),
      let talk := converse colours steps input
      let asked := questions steps
      talk.answers.length = asked ∧ input = (lines.take asked).flatten ++ talk.input ∧
        LinesOf talk.input (lines.drop asked) ∧
        ∀ k answer, talk.answers[k]? = some answer →
          let line := lines.getD k []
          (answer = .error unreadable ↔ ¬ IsUtf8 line) ∧
            ∀ yes, answer = .ok yes ↔ ∃ text : List Char,
              text.flatMap String.utf8EncodeChar = line ∧ (yes = true ↔ IsYes text) := by
  obtain ⟨lines, hlines⟩ := exists_linesOf input
  refine ⟨lines, hlines, fun colours steps => ?_⟩
  intro talk asked
  have hstart : Talk.Follows lines ⟨[], [], input⟩ := ⟨by simp, hlines⟩
  obtain ⟨hfollows, hlength⟩ := hstart.foldl colours steps
  have hasked : talk.answers.length = asked := hlength.trans (Nat.zero_add _)
  have hleft : LinesOf talk.input (lines.drop asked) := hasked ▸ hfollows.input
  refine ⟨hasked, ?_, hleft, fun k answer hk => ?_⟩
  · rw [← hleft.flatten, ← List.flatten_append, List.take_append_drop, hlines.flatten]
  · intro line
    rw [hfollows.answers k answer hk]
    exact ⟨answerOf_eq_error_iff, fun yes => answerOf_eq_ok_iff⟩

/-- The line behind one that is no text is read as ever, and past the end the answer is no. -/
theorem answers_are_lines_of_sample :
    let input : List UInt8 := [0xFF, 10, 0x20, 0x59, 0x65, 0x53]
    let talk := converse false [.ask "A?", .say ⟨.info, "B"⟩, .ask "C?", .ask "D?"] input
    talk.answers = [.error unreadable, .ok true, .ok false] ∧
      ∃ lines, LinesOf input lines ∧ ¬ IsUtf8 (lines.getD 0 []) ∧
        ∃ text : List Char, text.flatMap String.utf8EncodeChar = lines.getD 1 [] ∧ IsYes text := by
  have hanswers : (converse false [.ask "A?", .say ⟨.info, "B"⟩, .ask "C?", .ask "D?"]
      [0xFF, 10, 0x20, 0x59, 0x65, 0x53]).answers =
        [.error unreadable, .ok true, .ok false] := by
    rfl
  intro input talk
  obtain ⟨lines, hlines, hconversations⟩ := answers_are_lines input
  obtain ⟨-, -, -, hline⟩ := hconversations false
    [.ask "A?", .say ⟨.info, "B"⟩, .ask "C?", .ask "D?"]
  have hfirst := hline 0 (.error unreadable) (congrArg (·[0]?) hanswers)
  have hsecond := hline 1 (.ok true) (congrArg (·[1]?) hanswers)
  obtain ⟨text, htext, hyes⟩ := (hsecond.2 true).mp rfl
  exact ⟨hanswers, lines, hlines, hfirst.1.mp rfl, text, htext, hyes.mp rfl⟩

end Terminal

open Terminal

/-- The step of a conversation that an exchange is, if it is one. -/
def Exchange.step? : Exchange → Option Step
  | said line => some (.say line)
  | answered question _ => some (.ask question)
  | served _ _ => none

section Sessions

variable {α : Type}

/-- What happens behind a call is not seen. -/
theorem shown_events (colours : Bool) {σ : Type} {c : Call} (served : Served σ c) :
    served.events.flatMap (shown colours) = [] := by
  simp [Served.events, shown]

/-- A run goes on with the conversation that was before it. -/
theorem foldl_step_history (client : Client) (folder : Folder) (colours : Bool) (p : Program α)
    (s : Supplies) (talk : Talk) (h : talk.input = s.input) :
    ((p.history (client.host folder) s).filterMap Exchange.step?).foldl (Talk.step colours) talk =
      { shown := talk.shown ++ (p.run (client.host folder) s).trace.flatMap (shown colours)
        answers := talk.answers ++ (answersOf (p.history (client.host folder) s)).map Prod.snd
        input := (p.run (client.host folder) s).state.input } := by
  induction p generalizing s talk with
  | done a =>
      obtain ⟨seen, answers, input⟩ := talk
      obtain rfl := h
      simp [Program.history, answersOf]
  | say line next ih =>
      refine (ih s (talk.step colours (.say line)) h).trans ?_
      simp [Talk.step, shown, Program.history]
  | log entry next ih =>
      refine (ih s talk h).trans ?_
      simp [shown, Program.history]
  | ask question next ih =>
      let answered := (client.host folder).answer question s
      have hanswer : (readAnswer talk.input).1 = answered.1 :=
        congrArg (fun input => (readAnswer input).1) h
      have hinput : (readAnswer talk.input).2 = answered.2.input :=
        congrArg (fun input => (readAnswer input).2) h
      refine (ih answered.1 answered.2 (talk.step colours (.ask question)) hinput).trans ?_
      simp [Talk.step, shown, Program.history, hanswer, answered]
  | call c next ih =>
      let served := (client.host folder).serve c s
      refine (ih served.result served.state talk h).trans ?_
      simp [shown, shown_events, Program.history, served]

/-- What the user sees and answers in a run is a conversation over the input. -/
theorem converse_history (client : Client) (folder : Folder) (colours : Bool) (p : Program α)
    (s : Supplies) :
    converse colours ((p.history (client.host folder) s).filterMap Exchange.step?) s.input =
      { shown := (p.run (client.host folder) s).trace.flatMap (shown colours)
        answers := (answersOf (p.history (client.host folder) s)).map Prod.snd
        input := (p.run (client.host folder) s).state.input } :=
  foldl_step_history client folder colours p s ⟨[], [], s.input⟩ rfl

end Sessions

end LaunchDesk
