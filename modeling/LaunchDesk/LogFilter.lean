import LaunchDesk.Decimal.Digits
import LaunchDesk.Program
import LaunchDesk.Text.Blank
import LaunchDesk.Text.Hex
import LaunchDesk.Text.Infix
import LaunchDesk.Text.LetterTable
import LaunchDesk.Text.Split

/-!
# Log filters

Which log entries are written, and how. A filter is a list of rules; a rule sets the threshold for
all parts of the program whose names start with its target.

## Implementation notes

Of the rules that concern an entry the one with the longest target decides, of two with the same
target the one that asks for more, and of two that ask for the same the later one. An entry that no
rule concerns is not written.
-/

namespace LaunchDesk

open Text

namespace LogSource

/-- The name of a part of the program. -/
def target : LogSource → String
  | launch => "falcon::commands::launch"
  | interpretation => "falcon::negotiation::interpret"
  | negotiation => "falcon::negotiation::coordinator"
  | jobClient => "falcon_client::jobs"
  | clusterClient => "falcon_client::clusters"

end LogSource

namespace LogLevel

/-- The name of a level. -/
def name : LogLevel → String
  | debug => "DEBUG"
  | info => "INFO"
  | warn => "WARN"

/-- The least threshold at which entries of a level are written. -/
def rank : LogLevel → Nat
  | warn => 2
  | info => 3
  | debug => 4

end LogLevel

/-- A rule of a filter. -/
structure LogRule where
  /-- The start of the names it is about. -/
  target : String
  /-- The part of an entry that it asks for, if it asks for one. -/
  part : Option String
  /-- Whether it is about entries within a span or about values in them. -/
  narrow : Bool
  /-- The threshold, from 0 for nothing to 5 for everything. -/
  threshold : Nat
  deriving DecidableEq, Repr

/-- A filter. -/
abbrev LogFilter := List LogRule

namespace LogFilter

/-- The names of the thresholds in order. -/
def thresholdNames : List String :=
  ["off", "error", "warn", "info", "debug", "trace"]

/-- The threshold that lets everything through. -/
def everything : Nat := 5

/-- The threshold that a number names. -/
def thresholdOfDigits? (digits : List Char) : Option Nat := do
  let digits := if digits.head? = some '+' then digits.tail else digits
  if digits.isEmpty then none
  let n := Decimal.value (← digits.mapM Decimal.digit?)
  if n ≤ everything then some n else none

/-- The threshold of a name in either case or of a number. -/
def threshold? (word : List Char) : Option Nat :=
  (thresholdOfDigits? word).or
    (thresholdNames.findIdx? fun name => name.toList == word.map Char.toLower)

/-- Whether a target may start with a character. -/
def startsTarget (c : Char) : Bool :=
  inRanges letterRanges c || c == '-' || c == ':' || c == '_'

/-- The rule with a target. -/
def ruleFor (target : List Char) (threshold : Nat) : LogRule :=
  ⟨String.ofList target, none, false, threshold⟩

/-- The threshold behind an equals sign, where none stands for everything. -/
def statedThreshold? (word : List Char) : Option Nat :=
  if word.isEmpty then some everything else threshold? word

/-- The rule that is a single word: a threshold or a target. -/
def wordRule (word : List Char) : LogRule :=
  match threshold? word with
  | some n => ruleFor [] n
  | none => ruleFor word everything

/-- The number of characters from a place up to the first one of some. -/
def reach (s : List Char) (start : Nat) (ends : List Char) : Nat :=
  ((s.drop start).takeWhile fun c => !ends.contains c).length

/-- A rule whose brackets end in front of a place. -/
def closedRule? (s seen : List Char) (place : Nat) (rule : LogRule) : Option LogRule :=
  match seen.drop place with
  | [] => some rule
  | '=' :: _ => (statedThreshold? (s.drop (place + 1))).map fun n => { rule with threshold := n }
  | _ => none

/-- A rule with a bracket in front of a place. In brackets stand the name of a span and, in braces,
a part of an entry, perhaps with a value. -/
def bracketRule? (s seen : List Char) (target : List Char) (place : Nat) : Option LogRule :=
  let n := reach seen place [']', '\x7b']
  match seen.drop (place + n) with
  | ']' :: _ => closedRule? s seen (place + n + 1) { ruleFor target everything with narrow := true }
  | '\x7b' :: _ =>
      let first := place + n + 1
      let part := (s.drop first).take (reach seen first ['\x7d'])
      match part, seen.drop (first + part.length) with
      | _ :: _, '\x7d' :: ']' :: _ =>
          closedRule? s seen (first + part.length + 2)
            { ruleFor target everything with
              part := some (String.ofList part)
              narrow := decide (n ≠ 0) || part.contains '=' }
      | _, _ => none
  | _ => none

/-- The rule that a text between commas is: a threshold, a target, or both with an equals sign
between them, and perhaps brackets behind the target. Blanks at the ends are not looked at, but
the places of the parts are counted from the first of them. -/
def rule? (s : List Char) : Option LogRule :=
  let seen := trim s
  match seen with
  | [] => none
  | '[' :: _ => bracketRule? s seen [] 1
  | c :: _ =>
      if !startsTarget c then none
      else
        let n := reach seen 0 ['=', '[']
        match seen.drop n with
        | [] => some (wordRule s)
        | '=' :: _ => (statedThreshold? (s.drop (n + 1))).map (ruleFor (s.take n))
        | _ => bracketRule? s seen (s.take n) (n + 1)

/-- The filter that lets errors through. -/
def errorsOnly : LogFilter :=
  [ruleFor [] 1]

/-- The filter that a text is, if it is one. A text without rules lets errors through. -/
def parse? (s : String) : Option LogFilter := do
  match ← ((splitAt ',' s.toList).filter (!·.isEmpty)).mapM rule? with
  | [] => some errorsOnly
  | rules => some rules

/-- The filter of a program that is told nothing about it. -/
def usual : LogFilter :=
  [ruleFor "falcon".toList 2, ruleFor "falcon_client".toList 2]

/-- The filter for a setting, which may be missing or meaningless. -/
def ofSetting (setting : Option String) : LogFilter :=
  (setting.bind parse?).getD usual

/-- Whether a rule concerns the entries with a name. Their only part is the message, and they stand
in no span. -/
def concerns (name : String) (rule : LogRule) : Bool :=
  startsWith rule.target name && !rule.narrow && rule.part.all (· == "message")

/-- The better of two rules, of which the second one is the later one. -/
def better (a b : LogRule) : LogRule :=
  if a.target.length < b.target.length then b
  else if b.target.length < a.target.length then a
  else if a.part.isSome && b.part.isNone then a
  else b

/-- The rule that decides on a name. -/
def ruleOf? (filter : LogFilter) (name : String) : Option LogRule :=
  (filter.filter (concerns name)).foldl (fun found rule =>
    some (found.elim rule fun r => better r rule)) none

/-- Whether an entry is written. -/
def admits (filter : LogFilter) (entry : LogEntry) : Bool :=
  (filter.ruleOf? entry.source.target).any fun rule => entry.level.rank ≤ rule.threshold

end LogFilter

namespace LogEntry

/-- A character of an entry as it is written, where nothing may steer a terminal. -/
def safeChar (c : Char) : List Char :=
  let n := c.toNat
  if n = 0x1B || n = 0x7 || n = 0x8 || n = 0xC || n = 0x7F then
    ['\\', 'x', hexChar (n / 16), hexChar (n % 16)]
  else if 0x80 ≤ n && n < 0xA0 then ['\\', 'u', '\x7b'] ++ hexDigits n ++ ['\x7d']
  else [c]

/-- The lines that are written for an entry. -/
def lines (entry : LogEntry) : List String :=
  (splitAt '\n' (entry.level.name.toList ++ ' ' :: entry.text.toList.flatMap safeChar)).map
    String.ofList

end LogEntry

end LaunchDesk
