import LockDiscipline.Rig.Lifecycle

/-!
# Re-entrant use

A `Touch` is a use of the library that is short enough to be made from inside another one:
a mutex call, a notice to a monitor, or a check.  A probe is a sink that makes touches while
it is being called; `probed` is the responder of a family of probes.  The touches of a probe
may call sinks in turn, but only while one more guard is held, so the depth of such calls is
bounded by the number of monitors.
-/

namespace LockDiscipline

/-- A use of the library that can be made from inside another one. -/
inductive Touch where
  | call (o : Owner) (context handle : Nat) (c : Call)
  | callDirectly (o : Owner) (primitive handle : Nat) (c : Call)
  | notice (monitor handle : Nat) (n : Notice)
  | check (monitor : Nat)
  deriving DecidableEq, Repr

/-- The touches that a probe makes for each kind of call. -/
abbrev Probe := SinkCall.Kind → List Touch

/-- The probe that makes no touches. -/
def Probe.quiet : Probe := fun _ => []

variable {σ : Type}

/-- The `n`-th primitive that was made. -/
def Rig.primitive (r : Rig σ) (n : Nat) : Primitive := r.primitives[n]?.getD default

variable [Sink σ]

/-- Makes a touch. -/
def Touch.perform (R : Responder σ) (t : Touch) (r : Rig σ) : Reply × Rig σ :=
  match t with
  | .call o x m c => r.call R o x m c
  | .callDirectly o n m c => r.callDirectly R o (r.primitive n) m c
  | .notice i m n => (.done, r.observe R i n.operation m)
  | .check i =>
    let (v, r) := r.check R i
    (.pending v, r)

/-- Makes a list of touches, one after another. -/
def Touch.performAll (R : Responder σ) (r : Rig σ) : List Touch → List Reply × Rig σ
  | [] => ([], r)
  | t :: ts =>
    let (a, r) := t.perform R r
    let (as, r) := performAll R r ts
    (a :: as, r)

/-- The responder of a family of probes whose touches are followed to the given depth.
Each touch becomes visible when it is done. -/
def probed (probe : Family Probe) : Nat → Responder σ
  | 0 => silent
  | depth + 1 => fun s c r =>
    (probe s c.kind).foldl
      (fun r t =>
        let (a, r) := t.perform (probed probe depth) r
        r.emit (.nested s a))
      r

end LockDiscipline
