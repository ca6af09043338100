/-!
# Verdicts

The verdict of a test case, and the failure that explains a verdict other than `passed`.
-/

namespace LockDiscipline

/-- The outcome of a test case. -/
inductive Verdict where
  | passed
  | failed
  | skipped
  deriving DecidableEq, Repr, Inhabited

/-- The name of a verdict in reports. -/
def Verdict.name : Verdict → String
  | passed => "PASSED"
  | failed => "FAILED"
  | skipped => "SKIPPED"

/-- Where a failure was found: in a line of a test, or by the checker itself. -/
inductive Place where
  | line (n : Nat) (file : String)
  | checker
  deriving DecidableEq, Repr

/-- Why a test case failed or was skipped, and where. -/
structure Failure where
  message : String
  place : Place
  deriving DecidableEq, Repr

/-- The text of a failure in a line of a test. -/
def Failure.lineText (message : String) (n : Nat) (file : String) : String :=
  message ++ " at line " ++ toString n ++ ", " ++ file

/-- The message of the failure that a pending violation turns into. -/
def usageFailureMessage : String := "Mutex usage error"

/-- The failure that a pending violation turns into. -/
def usageFailure : Failure := ⟨usageFailureMessage, .checker⟩

/-- What a test case panics with: a text, or a value that is none. -/
inductive Panic where
  | text (s : String)
  | other
  deriving DecidableEq, Repr

/-- The failure of a test case that panicked. -/
def Panic.failure : Panic → Failure
  | text s => ⟨s, .checker⟩
  | other => ⟨"test case panicked", .checker⟩

end LockDiscipline
