/-!
# Texts within texts

Whether a text starts with another one, and whether it has another one anywhere.
-/

namespace LaunchDesk.Text

/-- Whether a text starts with another one. -/
def startsWith (start s : String) : Bool :=
  start.toList.isPrefixOf s.toList

/-- Whether a text has another one as a part. -/
def hasInfix (part : List Char) : List Char → Bool
  | [] => part.isEmpty
  | c :: rest => part.isPrefixOf (c :: rest) || hasInfix part rest

end LaunchDesk.Text
