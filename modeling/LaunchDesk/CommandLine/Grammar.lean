import LaunchDesk.Settings

/-!
# The grammar of the command line

The program has one command with one subcommand of its own, which is implied where it is missing.
All their options take a value.
-/

namespace LaunchDesk.CommandLine

/-- An option; each takes a value. -/
inductive Opt where
  | platformUrl
  | cluster
  | apiKey
  | group
  | version
  deriving DecidableEq, Repr

namespace Opt

/-- The long name of an option. -/
def long : Opt → String
  | platformUrl => "platform-url"
  | cluster => "cluster"
  | apiKey => "api_key"
  | group => "group"
  | version => "version"

/-- The letter of an option, if it has one. -/
def letter? : Opt → Option Char
  | platformUrl => none
  | cluster => some 'c'
  | apiKey => some 'k'
  | group => some 'g'
  | version => some 'v'

/-- Whether a text is a value of an option. -/
def accepts : Opt → String → Bool
  | version, v => (Version.ofWord? v).isSome
  | _, _ => true

end Opt

/-- A level of the command line: before the command, behind it, or behind its subcommand. -/
inductive Level where
  | program
  | launch
  | explicit
  deriving DecidableEq, Repr

namespace Level

/-- The options at a level. -/
def options : Level → List Opt
  | program => [.platformUrl]
  | launch | explicit => [.platformUrl, .cluster, .apiKey, .group, .version]

/-- Whether a level takes file names. -/
def takesFiles : Level → Bool
  | program => false
  | launch | explicit => true

/-- The word that leads to a level below, and that level. -/
def below? : Level → Option (String × Level)
  | program => some ("launch", launch)
  | launch => some ("default", explicit)
  | explicit => none

/-- Whether the subcommand at a level has to come before all else. -/
def subcommandFirst : Level → Bool
  | launch => true
  | _ => false

/-- The option of a long name at a level. -/
def longOption? (level : Level) (name : List Char) : Option Opt :=
  level.options.find? fun o => o.long.toList == name

/-- The option of a letter at a level. -/
def shortOption? (level : Level) (letter : Char) : Option Opt :=
  level.options.find? fun o => o.letter? == some letter

end Level

/-- What the word for a subcommand leads to. -/
inductive Subcommand where
  /-- A level below. -/
  | level (l : Level)
  /-- Help on the subcommands whose names follow. -/
  | help
  deriving DecidableEq, Repr

/-- The subcommand of a word at a level. -/
def Level.subcommand? (level : Level) (word : String) : Option Subcommand :=
  match level.below? with
  | none => none
  | some (name, below) =>
      if word = name then some (.level below)
      else if word = "help" then some .help
      else none

/-- Why a command line cannot be obeyed. -/
inductive Fault where
  /-- A value is missing or not allowed. -/
  | invalidValue
  /-- An option is given twice. -/
  | argumentConflict
  /-- A word is none that may stand where it does. -/
  | unknownArgument
  /-- A word is no subcommand. -/
  | invalidSubcommand
  /-- A subcommand is missing. -/
  | missingSubcommand
  /-- A value is given where none belongs. -/
  | tooManyValues
  /-- Help is asked for. -/
  | help
  /-- Nothing at all is asked for. -/
  | helpForWantOfArguments
  deriving DecidableEq, Repr

/-- The exit status that goes with a fault; it is no fault to ask for help. -/
def Fault.exitCode : Fault → Nat
  | help => 0
  | _ => 2

end LaunchDesk.CommandLine
