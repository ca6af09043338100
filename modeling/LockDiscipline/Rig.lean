import LockDiscipline.CaseRecord
import LockDiscipline.Launcher
import LockDiscipline.Monitor
import LockDiscipline.Transcript

/-!
# Rigs

A `Rig` is everything that mutex calls depend on and change: handles, scripts, contexts,
monitors, sinks of a type `σ` and slots for threads, each kind a family of objects that
are addressed by number, together with the transcript of what became visible so far.

The functions of this module change one object each.  A `Responder` says what a sink does
to the rig when it is called, besides changing itself: `silent` does nothing.
-/

namespace LockDiscipline

/-- Objects of one kind, addressed by number. -/
abbrev Family (α : Type) := Nat → α

namespace Family

variable {α : Type}

/-- The family `f` with `a` at place `i`. -/
def set (f : Family α) (i : Nat) (a : α) : Family α := fun j => if j = i then a else f j

@[simp]
theorem set_self (f : Family α) (i : Nat) (a : α) :
  f.set i a i = a
  := if_pos rfl

@[simp]
theorem set_of_ne (f : Family α) {i j : Nat} (a : α) (h : j ≠ i) :
  f.set i a j = f j
  := if_neg h

@[simp]
theorem set_set (f : Family α) (i : Nat) (a b : α) :
  (f.set i a).set i b = f.set i b
  := by
  funext j
  unfold set
  split <;> rfl

@[simp]
theorem set_get (f : Family α) (i : Nat) :
  f.set i (f i) = f
  := by
  funext j
  unfold set
  split
  · next h => rw [h]
  · rfl

/-- What is read off a family of which one object is replaced. -/
theorem map_set {β : Type} (f : Family α) (i : Nat) (a : α) (g : α → β) :
  (fun j => g (f.set i a j)) = Family.set (fun j => g (f j)) i (g a)
  := by
  funext j
  unfold set
  split <;> rfl

end Family

/-- Everything that mutex calls depend on and change. -/
structure Rig (σ : Type) where
  handle : Family Handle
  script : Family Script
  context : Family Context
  monitor : Family Monitor
  sink : Family σ
  slot : Family Slot
  /-- The primitives made so far. -/
  primitives : List Primitive
  /-- The number of threads started so far. -/
  started : Nat
  transcript : List Effect

/-- What a sink does to the rig when it is called, besides changing itself. -/
abbrev Responder (σ : Type) := Nat → SinkCall → Rig σ → Rig σ

/-- The responder of sinks that only change themselves. -/
def silent {σ : Type} : Responder σ := fun _ _ r => r

namespace Rig

variable {σ : Type}

/-! ### Changes of one object -/

/-- The rig with one more visible effect. -/
def emit (r : Rig σ) (e : Effect) : Rig σ := { r with transcript := r.transcript ++ [e] }

/-- The rig with one more event in the log. -/
def log (r : Rig σ) (e : Event) : Rig σ := r.emit (.logged e)

/-- The rig with handle `m` replaced. -/
def setHandle (r : Rig σ) (m : Nat) (h : Handle) : Rig σ :=
  { r with handle := r.handle.set m h }

/-- The rig with script `n` replaced. -/
def setScript (r : Rig σ) (n : Nat) (q : Script) : Rig σ :=
  { r with script := r.script.set n q }

/-- The rig with context `c` replaced. -/
def setContext (r : Rig σ) (c : Nat) (x : Context) : Rig σ :=
  { r with context := r.context.set c x }

/-- The rig with monitor `i` replaced. -/
def setMonitor (r : Rig σ) (i : Nat) (x : Monitor) : Rig σ :=
  { r with monitor := r.monitor.set i x }

/-- The rig with sink `s` replaced. -/
def setSink (r : Rig σ) (s : Nat) (x : σ) : Rig σ := { r with sink := r.sink.set s x }

/-- The rig with slot `k` replaced. -/
def setSlot (r : Rig σ) (k : Nat) (x : Slot) : Rig σ := { r with slot := r.slot.set k x }

/-- The rig with `p` among its primitives. -/
def addPrimitive (r : Rig σ) (p : Primitive) : Rig σ :=
  { r with primitives := r.primitives ++ [p] }

/-- A new decorator of `p` that tells monitor `i`, and the rig with it. -/
def decorate (r : Rig σ) (p : Primitive) (i : Nat) : Primitive × Rig σ :=
  let decorator := Primitive.instrumented p i (r.monitor i).decorators
  (decorator, (r.setMonitor i (r.monitor i).countDecorator).addPrimitive decorator)

/-! ### Calls of a sink -/

variable [Sink σ]

/-- Sink `s` is called: it changes, the call becomes visible, and the sink responds. -/
def tell (R : Responder σ) (s : Nat) (c : SinkCall) (r : Rig σ) : Rig σ :=
  R s c ((r.setSink s (Sink.receive (r.sink s) c)).emit (.told s c))

/-- The violation that sink `s` says is pending. -/
def askViolation (R : Responder σ) (s : Nat) (r : Rig σ) : Option Violation × Rig σ :=
  (Sink.violation (r.sink s), r.tell R s .violation)

/-- The verdict that sink `s` gives. -/
def askVerdict (R : Responder σ) (s : Nat) (r : Rig σ) : Verdict × Rig σ :=
  (Sink.verdict (r.sink s), r.tell R s .verdict)

end Rig

end LockDiscipline
