import LockDiscipline.Rig.Call

/-!
# Layers of observers

A call passes through the hook of a context and through one decorator after another until it
reaches the bare primitive.  `Rig.serve` has no layers: the bare primitive does its work, and
those who are told of it are told one after another, as a list.  The two are the same
(`Rig.callDirectly_eq_serve`, `Rig.callHooked_eq_serve`), by induction on the decorators,
since each layer tells one more observer on the outside of those within, and hands on the
answer.

It makes no difference, in particular, whether a monitor is told by a decorator or by a hook
(`Rig.callDirectly_decorator_eq_callHooked`).
-/

namespace LockDiscipline.Rig

variable {σ : Type} [Sink σ]

/-- `o` makes a call on handle `m` of a primitive with a hook: those who are told are told
after `init` and `lock` from the innermost to the hook, and before `free` and `unlock` in the
opposite order. -/
def serve (R : Responder σ) (o : Owner) (p : Primitive) (hook : Option Observer) (m : Nat)
    (c : Call) (r : Rig σ) : Reply × Rig σ :=
  let observers := p.observers hook
  if r.blocks p m c then (.wouldBlock, r)
  else
    match c with
    | .init =>
      let (_, r) := r.serveBare o p m .init
      (.done, r.notifyAll R .initialised m observers)
    | .free =>
      let (_, r) := (r.notifyAll R .freeing m observers.reverse).serveBare o p m .free
      (.done, r)
    | .lock =>
      let (s, r) := r.serveBare o p m .lock
      (.status s, r.notifyAll R (.locked s) m observers)
    | .unlock =>
      let (s, r) := (r.notifyAll R .unlocking m observers.reverse).serveBare o p m .unlock
      (.status s, r)

omit [Sink σ] in
/-- What the bare primitive does depends on its kind and its name. -/
theorem serveBare_congr {r : Rig σ} {p p' : Primitive} (kind : p'.kind = p.kind)
    (bottom : p'.bottom = p.bottom) (o : Owner) (m : Nat) (c : Call) :
  r.serveBare o p' m c = r.serveBare o p m c
  := by rw [serveBare.eq_def, serveBare.eq_def, kind, bottom]

/-- A call depends on a primitive and a hook only by the bare primitive at the bottom and by
those who are told. -/
theorem serve_congr {r : Rig σ} {p p' : Primitive} {hook hook' : Option Observer}
    (R : Responder σ) (kind : p'.kind = p.kind) (bottom : p'.bottom = p.bottom)
    (observers : p'.observers hook' = p.observers hook) (o : Owner) (m : Nat) (c : Call) :
  r.serve R o p' hook' m c = r.serve R o p hook m c
  := by
  have blocks : r.blocks p' m c = r.blocks p m c := by rw [Rig.blocks, Rig.blocks, kind]
  rw [serve.eq_def, serve.eq_def, observers, blocks]
  simp only [serveBare_congr kind bottom]

/-! ### One layer -/

/-- Makes a call by `inside`, and tells one more observer around it. -/
def layer (R : Responder σ) (a : Observer) (inside : Call → Rig σ → Reply × Rig σ) (m : Nat)
    (c : Call) (r : Rig σ) : Reply × Rig σ :=
  match c with
  | .init => ((inside .init r).1, (inside .init r).2.notify R .initialised m a)
  | .free => inside .free (r.notify R .freeing m a)
  | .lock =>
    match inside .lock r with
    | (.status s, r) => (.status s, r.notify R (.locked s) m a)
    | unanswered => unanswered
  | .unlock => inside .unlock (r.notify R .unlocking m a)

/-- A decorator is a layer around the primitive inside. -/
theorem callDirectly_instrumented (R : Responder σ) (o : Owner) (p : Primitive) (i n m : Nat)
    (c : Call) (r : Rig σ) :
  r.callDirectly R o (.instrumented p i n) m c
    = r.layer R (.monitor i) (fun c r => r.callDirectly R o p m c) m c
  := by cases c <;> rfl

/-- A hook is a layer around the primitive beside it. -/
theorem callHooked_some (R : Responder σ) (o : Owner) (p : Primitive) (a : Observer) (m : Nat)
    (c : Call) (r : Rig σ) :
  r.callHooked R o p (some a) m c = r.layer R a (fun c r => r.callDirectly R o p m c) m c
  := by cases c <;> rfl

/-- Without a hook nobody is told but by decorators. -/
theorem callHooked_none (R : Responder σ) (o : Owner) (p : Primitive) (m : Nat) (c : Call)
    (r : Rig σ) :
  r.callHooked R o p none m c = r.callDirectly R o p m c
  := by
  cases c with
  | init | free | unlock => rfl
  | lock =>
    rw [callHooked]
    split
    · next same => exact same.symm
    · rfl

/-- A decorator of a primitive and a hook beside it make the same call, if both tell the same
monitor. -/
theorem callDirectly_decorator_eq_callHooked (R : Responder σ) (o : Owner) (p : Primitive)
    (i n m : Nat) (c : Call) (r : Rig σ) :
  r.callDirectly R o (.instrumented p i n) m c = r.callHooked R o p (some (.monitor i)) m c
  := by rw [callDirectly_instrumented, callHooked_some]

/-- A layer tells its observer last of what was done, and first of what will be. -/
theorem serve_layer (R : Responder σ) (o : Owner) {p p' : Primitive}
    {hook hook' : Option Observer} {a : Observer} (kind : p'.kind = p.kind)
    (bottom : p'.bottom = p.bottom) (observers : p'.observers hook' = p.observers hook ++ [a])
    (m : Nat) (c : Call) (r : Rig σ) :
  r.serve R o p' hook' m c = r.layer R a (fun c r => r.serve R o p hook m c) m c
  := by
  have blocks (r : Rig σ) (c : Call) : r.blocks p' m c = r.blocks p m c := by
    rw [Rig.blocks, Rig.blocks, kind]
  have outwards (r : Rig σ) (n : Notice) : r.notifyAll R n m (p'.observers hook')
      = (r.notifyAll R n m (p.observers hook)).notify R n m a := by
    rw [observers, notifyAll, List.foldl_append]
    rfl
  have inwards (r : Rig σ) (n : Notice) : r.notifyAll R n m (p'.observers hook').reverse
      = (r.notify R n m a).notifyAll R n m (p.observers hook).reverse := by
    rw [observers, List.reverse_append]
    rfl
  cases c with
  | init | free | unlock =>
    simp [serve.eq_def, layer, Rig.blocks, serveBare_congr kind bottom, outwards, inwards]
  | lock =>
    rw [serve.eq_def, layer, serve.eq_def, blocks]
    by_cases waits : r.blocks p m .lock = true
    · simp only [waits, ↓reduceIte]
    · simp only [waits, Bool.false_eq_true, ↓reduceIte, serveBare_congr kind bottom, outwards]

/-! ### All layers -/

/-- A call of a primitive reaches the bare one at the bottom once, and the monitors of all
decorators are told of it. -/
theorem callDirectly_eq_serve (R : Responder σ) (o : Owner) (p : Primitive) (m : Nat) (c : Call)
    (r : Rig σ) :
  r.callDirectly R o p m c = r.serve R o p none m c
  := by
  -- The outermost decorator may call at once or after its monitor was told, so the rig varies.
  induction p generalizing c r with
  | bare n k =>
    rw [callDirectly, serve.eq_def]
    split
    · rfl
    · cases c <;> rfl
  | instrumented p i n ih =>
    have kind : (Primitive.instrumented p i n).kind = p.kind := rfl
    have observers : (Primitive.instrumented p i n).observers none
        = p.observers none ++ [.monitor i] := by simp [Primitive.observers, Primitive.monitors]
    rw [callDirectly_instrumented, serve_layer R o kind rfl observers]
    simp only [ih]

/-- A call of a primitive with a hook is told to the hook in the same way. -/
theorem callHooked_eq_serve (R : Responder σ) (o : Owner) (p : Primitive)
    (hook : Option Observer) (m : Nat) (c : Call) (r : Rig σ) :
  r.callHooked R o p hook m c = r.serve R o p hook m c
  := by
  cases hook with
  | none => rw [callHooked_none, callDirectly_eq_serve]
  | some a =>
    have observers : p.observers (some a) = p.observers none ++ [a] := by
      simp [Primitive.observers]
    rw [callHooked_some, serve_layer R o rfl rfl observers]
    simp only [callDirectly_eq_serve]

/-- Everybody who is told of the calls of a context is told of a call through it. -/
theorem call_eq_serve (R : Responder σ) (o : Owner) (x m : Nat) (c : Call) (r : Rig σ) :
  r.call R o x m c = r.serve R o (r.context x).primitive (r.context x).hook m c
  := callHooked_eq_serve R o _ _ m c r

end LockDiscipline.Rig
