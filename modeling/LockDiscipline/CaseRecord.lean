import LockDiscipline.Sink

/-!
# Case records

A `CaseRecord` is the sink that a test case ordinarily reports to.  It has three parts
that do not influence each other: the verdict with its failure, the step reached, and the
pending violation.  The first failure stands until a skip or a reset, and the first
violation until it is cleared.
-/

namespace LockDiscipline

/-- What is recorded about a test case. -/
structure CaseRecord where
  verdict : Verdict := .passed
  failure : Option Failure := none
  step : Option Nat := none
  violation : Option Violation := none
  deriving DecidableEq, Repr, Inhabited

namespace CaseRecord

/-- The record with `v` pending, unless another violation is. -/
def record (r : CaseRecord) (v : Violation) : CaseRecord :=
  { r with violation := r.violation.or (some v) }

/-- The record with no violation pending. -/
def clear (r : CaseRecord) : CaseRecord := { r with violation := none }

/-- The record of a failed case.  A case that has failed already keeps its failure. -/
def fail (r : CaseRecord) (f : Failure) : CaseRecord :=
  if r.verdict = .failed then r else { r with verdict := .failed, failure := some f }

/-- The record of a case that was skipped for the reason `f`. -/
def skip (r : CaseRecord) (f : Failure) : CaseRecord :=
  { r with verdict := .skipped, failure := some f }

/-- The record with `n` as the step reached. -/
def setStep (r : CaseRecord) (n : Nat) : CaseRecord := { r with step := some n }

/-- The record of a case that has not begun. -/
def fresh : CaseRecord := {}

instance : Sink CaseRecord where
  receive r
    | .record v => r.record v
    | .clear => r.clear
    | .fail f => r.fail f
    | .reset => fresh
    | .violation => r
    | .verdict => r
  violation := CaseRecord.violation
  verdict := CaseRecord.verdict

end CaseRecord

end LockDiscipline
