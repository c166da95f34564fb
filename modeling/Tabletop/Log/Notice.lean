import Tabletop.Log.Level

/-!
# Notices

What the parts of a program write to the log (`Notice`): who writes, at which level, and what.
-/

namespace Tabletop

/-- One message for the log. -/
structure Notice where
  /-- The name of the part that writes. -/
  logger : Text
  level : Level
  message : Text
  deriving DecidableEq

end Tabletop
