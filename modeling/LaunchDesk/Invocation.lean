import LaunchDesk.CommandLine.Parser
import LaunchDesk.Launch

/-!
# Invocations

What a command line and the environment ask for: a platform, a key, and what is to be launched.

## Implementation notes

An option on the command line wins over the environment, and the innermost of several wins over the
others. The subcommand of the launch command may be named or left out; its name is also recognized
behind options, where it looks like a file name.
-/

namespace LaunchDesk

open CommandLine

/-- The part of the environment that matters. -/
structure Environment where
  /-- The key to the platform. -/
  apiKey : Option String
  /-- The address of the platform. -/
  platformUrl : Option String
  /-- Which log entries are written. -/
  logFilter : Option String
  deriving DecidableEq, Repr

/-- What is asked for. -/
structure Invocation where
  /-- The address of the platform, if one is given. -/
  platformUrl : Option String
  /-- The key to the platform, if one is given. -/
  apiKey : Option String
  /-- The version of the platform. -/
  version : Version
  /-- What is to be launched. -/
  order : Order
  deriving DecidableEq, Repr

namespace Invocation

/-- File names without the name of the implied subcommand in front of them. -/
def withoutImplied (files : List String) : List String :=
  if files.head? = some "default" then files.tail else files

/-- The file names of a launch, given at the level that ends the command line. -/
def filesAt (level : Level) (files : List String) : List String :=
  if level = .explicit then files else withoutImplied files

/-- The address given at the innermost level that has one. -/
def innermostUrl? (levels : List (Level × Given)) : Option String :=
  levels.foldl (fun found l => (l.2.value? .platformUrl).or found) none

/-- The version given at a level; a release if none is given. -/
def versionAt (given : Given) : Version :=
  ((given.value? .version).bind Version.ofWord?).getD .release

/-- What the levels of a command line ask for in an environment. -/
def ofLevels (env : Environment) (levels : List (Level × Given)) : Except Fault Invocation :=
  let url := (innermostUrl? levels).or env.platformUrl
  match levels.getLast? with
  | some (.launch, given) => .ok (inner url .launch given)
  | some (.explicit, given) => .ok (inner url .explicit given)
  | _ => .error (if url.isSome then .missingSubcommand else .helpForWantOfArguments)
where
  /-- What the innermost level asks for. -/
  inner (url : Option String) (level : Level) (given : Given) : Invocation :=
    { platformUrl := url
      apiKey := (given.value? .apiKey).or env.apiKey
      version := versionAt given
      order :=
        { files := filesAt level given.files
          cluster := given.value? .cluster
          group := given.value? .group } }

/-- What a command line asks for in an environment. -/
def parse (env : Environment) (words : List String) : Except Fault Invocation := do
  ofLevels env (← CommandLine.read words)

end Invocation

end LaunchDesk
