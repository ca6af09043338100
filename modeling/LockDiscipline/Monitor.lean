import LockDiscipline.Context
import LockDiscipline.Guard

/-!
# Monitors

A `Monitor` watches handles.  It counts the live ones against a baseline, a `Tally` that is
kept behind a guard, reports violations to a sink, and while it is enabled it remembers what
of a context it replaced.
-/

namespace LockDiscipline

/-- The number of live handles, and the number that is expected between test cases. -/
structure Tally where
  live : Int := 0
  baseline : Int := 0
  deriving DecidableEq, Repr, Inhabited

namespace Tally

/-- The tally after a change by `d` in the number of live handles. -/
def count (t : Tally) (d : Int) : Tally := { t with live := t.live + d }

/-- The tally whose baseline is the number of live handles. -/
def rebase (t : Tally) : Tally := { t with baseline := t.live }

/-- The tally whose number of live handles is the baseline. -/
def settle (t : Tally) : Tally := { t with live := t.baseline }

/-- The surplus of live handles over the baseline. -/
def leaked (t : Tally) : Int := t.live - t.baseline

@[simp]
theorem leaked_settle (t : Tally) :
  t.settle.leaked = 0
  := Int.sub_self t.baseline

@[simp]
theorem leaked_rebase (t : Tally) :
  t.rebase.leaked = 0
  := Int.sub_self t.live

/-- The surplus changes by as much as the number of live handles. -/
theorem leaked_count (t : Tally) (d : Int) :
  (t.count d).leaked = t.leaked + d
  := by simp only [leaked, count]; omega

end Tally

/-- What of a context an enabled monitor replaced. -/
inductive Replaced where
  | primitive (previous : Primitive)
  | hook (previous : Option Observer)
  deriving DecidableEq, Repr

/-- A monitor, reporting to the sink of the given number. -/
structure Monitor where
  sink : Nat
  settings : Settings := {}
  tally : Guard Tally := { value := {} }
  replaced : Option Replaced := none
  /-- The number of decorators made for the monitor so far. -/
  decorators : Nat := 0
  deriving DecidableEq, Repr, Inhabited

namespace Monitor

/-- Whether a monitor is enabled. -/
def active (m : Monitor) : Bool := m.replaced.isSome

/-- What becomes of a caller that asks for the guard of a monitor. -/
def attempt (m : Monitor) : Guard.Attempt := m.tally.attempt m.settings.guardPolicy

/-- The monitor while its guard is held. -/
def hold (m : Monitor) : Monitor := { m with tally := m.tally.hold }

/-- The monitor after its guard was let go. -/
def release (m : Monitor) : Monitor := { m with tally := m.tally.release }

/-- The monitor with one more decorator made for it. -/
def countDecorator (m : Monitor) : Monitor := { m with decorators := m.decorators + 1 }

/-- The monitor with its tally changed by `f`. -/
def adjust (m : Monitor) (f : Tally → Tally) : Monitor :=
  { m with tally := m.tally.put (f m.tally.value) }

end Monitor

end LockDiscipline
