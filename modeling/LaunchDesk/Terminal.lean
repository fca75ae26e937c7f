import LaunchDesk.Program
import LaunchDesk.Text.Blank
import LaunchDesk.Text.LowerCase
import LaunchDesk.Text.Utf8

/-!
# The terminal

What a user sees of lines and questions, with or without colours, and how the answers are read: one
line of the input for each question.

## Implementation notes

A line that is no text is an answer that cannot be read; it is used up all the same, so the next
question gets the next line. Behind the end of the input all lines are empty.
-/

namespace LaunchDesk.Terminal

open Text

/-- The sequence that ends all colours. -/
def reset : List Char :=
  ['\x1b', '[', '0', 'm']

/-- The sequence that starts the colour of a tone, if the tone has one. -/
def colour? : Tone → Option (List Char)
  | .info => none
  | .warn => some ['\x1b', '[', '3', '3', 'm']
  | .error => some ['\x1b', '[', '3', '1', 'm']
  | .success => some ['\x1b', '[', '3', '2', 'm']

/-- A text in which a colour goes on behind everything that ends it. -/
def reopened (start : List Char) : List Char → List Char
  | [] => []
  | '\x1b' :: '[' :: '0' :: 'm' :: rest => reset ++ start ++ reopened start rest
  | c :: rest => c :: reopened start rest

/-- A text in the colour of a tone. -/
def painted (tone : Tone) (text : List Char) : List Char :=
  match colour? tone with
  | none => text
  | some start => start ++ reopened start text ++ reset

/-- A line as it is shown. -/
def showLine (colours : Bool) (line : Line) : List Char :=
  (if colours then painted line.tone line.text.toList else line.text.toList) ++ ['\n']

/-- A question as it is shown. -/
def showQuestion (question : String) : List Char :=
  question.toList ++ " [y/N]: ".toList

/-- What the user sees of an event. -/
def shown (colours : Bool) : Event → List Char
  | .said line => showLine colours line
  | .asked question => showQuestion question
  | _ => []

/-- What the user sees of a trace. -/
def transcript (colours : Bool) (trace : List Event) : String :=
  String.ofList (trace.flatMap (shown colours))

/-- The first line of an input, with its line end, and the input behind it. -/
def takeLine : List UInt8 → List UInt8 × List UInt8
  | [] => ([], [])
  | b :: rest =>
      if b = 10 then ([b], rest)
      else (b :: (takeLine rest).1, (takeLine rest).2)

/-- No byte of the input is lost. -/
theorem takeLine_append (input : List UInt8) :
    (takeLine input).1 ++ (takeLine input).2 = input := by
  induction input with
  | nil => rfl
  | cons b rest ih =>
    unfold takeLine
    split
    · rfl
    · simp [ih]

/-- Whether an answer says yes. -/
def saysYes (answer : String) : Bool :=
  let word := lowerCase (String.ofList (trim answer.toList))
  word == "y" || word == "yes"

/-- The failure to read a line that is no text. -/
def unreadable : AnswerError :=
  ⟨"Failed to read answer from stdin", ["stream did not contain valid UTF-8"]⟩

/-- The answer that a line gives. -/
def answerOf (line : List UInt8) : Answer :=
  match ofUtf8? line with
  | some text => .ok (saysYes text)
  | none => .error unreadable

/-- Read an answer. -/
def readAnswer (input : List UInt8) : Answer × List UInt8 :=
  (answerOf (takeLine input).1, (takeLine input).2)

/-- A step of a conversation. -/
inductive Step where
  /-- Say a line. -/
  | say (line : Line)
  /-- Ask a yes/no question. -/
  | ask (question : String)
  deriving DecidableEq, Repr

/-- How far a conversation has come. -/
structure Talk where
  /-- What the user has seen. -/
  shown : List Char
  /-- The answers to the questions. -/
  answers : List Answer
  /-- The input that is left. -/
  input : List UInt8
  deriving Repr

/-- A conversation with one more step. -/
def Talk.step (colours : Bool) (talk : Talk) : Step → Talk
  | .say line => { talk with shown := talk.shown ++ showLine colours line }
  | .ask question =>
      { shown := talk.shown ++ showQuestion question
        answers := talk.answers ++ [(readAnswer talk.input).1]
        input := (readAnswer talk.input).2 }

/-- What the steps of a conversation come to over an input. -/
def converse (colours : Bool) (steps : List Step) (input : List UInt8) : Talk :=
  steps.foldl (Talk.step colours) ⟨[], [], input⟩

end LaunchDesk.Terminal
