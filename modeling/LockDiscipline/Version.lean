/-!
# Version

The version of the checker.
-/

namespace LockDiscipline

/-- The version of the checker. -/
def version : String := "0.1.0"

end LockDiscipline
