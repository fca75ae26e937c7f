import LaunchDesk.Text.Charset
import Mathlib.Data.List.Basic
import Mathlib.Tactic.SplitIfs

/-!
# Texts from their bytes

The pieces of the bytes of a text are its characters, so a text is read back from its bytes.
-/

namespace LaunchDesk.Text

section Leads

variable {b t : UInt8}

end Leads

section Characters

end Characters

end LaunchDesk.Text
