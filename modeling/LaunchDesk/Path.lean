import LaunchDesk.Text.Split

/-!
# Paths

The bare name of a file, which is all that the platform and the user's warnings see of a path.

## Implementation notes

A path is a text: only paths in UTF-8 are covered, and they are shown as they are.
-/

namespace LaunchDesk.Path

/-- The parts of a path between its slashes. -/
def segments (path : String) : List String :=
  (Text.splitAt '/' path.toList).map String.ofList

/-- The parts that lead somewhere: an empty part and a single dot stay where they are. -/
def steps (path : String) : List String :=
  (segments path).filter fun s => s ≠ "" ∧ s ≠ "."

/-- The last named part of a path; none if the path ends by going up or leads nowhere. -/
def baseName? (path : String) : Option String :=
  (steps path).getLast?.filter fun s => s ≠ ".."

/-- The name under which a file is known: its bare name, or the path if it has none. -/
def knownAs (path : String) : String :=
  (baseName? path).getD path

end LaunchDesk.Path
