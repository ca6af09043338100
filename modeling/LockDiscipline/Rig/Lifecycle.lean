import LockDiscipline.Rig.Call

/-!
# Enabling, disabling and test cases

A monitor is enabled on a context by taking the place of its primitive or of its hook, and
remembers what it replaced; disabling puts that back.  `runCase` is one test case: the sink
is reset, the body runs, a panic of the body becomes a failure, and the check follows.
-/

namespace LockDiscipline.Rig

variable {σ : Type} [Sink σ]

/-- Replaces the primitive of context `x`. -/
def substitute (x : Nat) (p : Primitive) (r : Rig σ) : Rig σ :=
  r.setContext x { r.context x with primitive := p }

/-- Replaces the hook of context `x`. -/
def setHook (x : Nat) (hook : Option Observer) (r : Rig σ) : Rig σ :=
  r.setContext x { r.context x with hook := hook }

/-- Puts monitor `i` in the way of the calls of context `x`; the answer is what it
replaced. -/
def intercept (i x : Nat) (r : Rig σ) : Replaced × Rig σ :=
  match (r.monitor i).settings.strategy with
  | .substitute =>
    let previous := (r.context x).primitive
    let (decorator, r) := r.decorate previous i
    (.primitive previous, r.substitute x decorator)
  | .hooks => (.hook (r.context x).hook, r.setHook x (some (.monitor i)))

/-- Puts back into context `x` what was replaced. -/
def restore (x : Nat) (old : Replaced) (r : Rig σ) : Rig σ :=
  match old with
  | .primitive previous => r.substitute x previous
  | .hook previous => r.setHook x previous

/-- Enables monitor `i` on context `x`. -/
def enable (i x : Nat) (r : Rig σ) : LifecycleStatus × Rig σ :=
  match (r.monitor i).replaced with
  | some _ => (.refused .alreadyActive, r)
  | none =>
    let (old, r) := r.intercept i x
    let r := r.setMonitor i { r.monitor i with replaced := some old }
    (.ok, r.log (.enabled (r.monitor i).settings.strategy))

/-- Disables monitor `i` and restores context `x`. -/
def disable (i x : Nat) (r : Rig σ) : LifecycleStatus × Rig σ :=
  match (r.monitor i).replaced with
  | none => (.refused .notActive, r)
  | some old =>
    let r := r.setMonitor i { r.monitor i with replaced := none }
    (.ok, (r.restore x old).log .disabled)

/-- The end of a test case of monitor `i`, whose body may have panicked. -/
def concludeCase (R : Responder σ) (i : Nat) (panic : Option Panic) (r : Rig σ) :
    Verdict × Rig σ :=
  let s := (r.monitor i).sink
  let r :=
    match panic with
    | some p => r.tell R s (.fail p.failure)
    | none => r
  let (_, r) := r.check R i
  r.askVerdict R s

/-- One test case of monitor `i`.  The body answers some result and whether it panicked. -/
def runCase {α : Type} (R : Responder σ) (i : Nat) (body : Rig σ → (α × Option Panic) × Rig σ)
    (r : Rig σ) : (Verdict × α) × Rig σ :=
  let ((a, panic), r) := body (r.tell R (r.monitor i).sink .reset)
  let (verdict, r) := r.concludeCase R i panic
  ((verdict, a), r)

end LockDiscipline.Rig
