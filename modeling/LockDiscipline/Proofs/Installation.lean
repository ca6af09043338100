import Mathlib.Tactic.Use
import LockDiscipline.Proofs.Layers
import LockDiscipline.Proofs.Observation

/-!
# Installed monitors

A context is watched by a monitor when the monitor is the only one who is told of its calls,
and its guard is free.  Enabling a monitor on a context that nobody observes makes it
watched, whichever the strategy, and a call through a watched context is the work of the
bare primitive together with one observation: after `init` and `lock`, before `free` and
`unlock`.
-/

namespace LockDiscipline.Rig

variable {σ : Type} {r : Rig σ} {i x : Nat}

/-- Context `x` is watched by monitor `i`, whose guard is free. -/
structure Watched (i x : Nat) (r : Rig σ) : Prop where
  observers : (r.context x).observers = [.monitor i]
  free : (r.monitor i).tally.held = false

/-! ### Enabling and disabling -/

/-- A monitor that is not enabled yet can take the place of the primitive. -/
theorem enable_of_substitute (inactive : (r.monitor i).replaced = none)
    (strategy : (r.monitor i).settings.strategy = .substitute) :
  let decorator :=
    Primitive.instrumented (r.context x).primitive i (r.monitor i).decorators
  r.enable i x =
    (.ok,
      { r with
        context := r.context.set x { r.context x with primitive := decorator }
        monitor := r.monitor.set i
          { (r.monitor i).countDecorator with
            replaced := some (.primitive (r.context x).primitive) }
        primitives := r.primitives ++ [decorator]
        transcript := r.transcript ++ [.logged (.enabled .substitute)] })
  := by
  simp [enable, inactive, intercept, strategy, decorate, substitute, setContext, setMonitor,
    addPrimitive, log, emit, Monitor.countDecorator]

/-- A monitor that is not enabled yet can take the place of the hook. -/
theorem enable_of_hooks (inactive : (r.monitor i).replaced = none)
    (strategy : (r.monitor i).settings.strategy = .hooks) :
  r.enable i x =
    (.ok,
      { r with
        context := r.context.set x { r.context x with hook := some (.monitor i) }
        monitor := r.monitor.set i
          { r.monitor i with replaced := some (.hook (r.context x).hook) }
        transcript := r.transcript ++ [.logged (.enabled .hooks)] })
  := by
  simp [enable, inactive, intercept, strategy, setHook, setContext, setMonitor, log, emit]

/-- Enabling a monitor changes contexts, and of the monitor what it replaced. -/
theorem enable_eq (inactive : (r.monitor i).replaced = none) :
  ∃ context old decorators primitives s, (r.enable i x).2 =
    { r with
      context := context
      monitor := r.monitor.set i
        { r.monitor i with replaced := some old, decorators := decorators }
      primitives := primitives
      transcript := r.transcript ++ [.logged (.enabled s)] }
  := by
  cases strategy : (r.monitor i).settings.strategy with
  | substitute =>
    rw [enable_of_substitute inactive strategy]
    exact ⟨_, _, _, _, _, rfl⟩
  | hooks =>
    rw [enable_of_hooks inactive strategy]
    exact ⟨_, _, _, _, _, rfl⟩

/-- An enabled monitor watches a context that nobody observed. -/
theorem watched_enable (inactive : (r.monitor i).replaced = none)
    (free : (r.monitor i).tally.held = false) (unobserved : (r.context x).observers = []) :
  (r.enable i x).2.Watched i x
  := by
  obtain ⟨bare, unhooked⟩ : (r.context x).primitive.monitors = [] ∧ (r.context x).hook = none := by
    simpa [Context.observers, Primitive.observers] using unobserved
  cases strategy : (r.monitor i).settings.strategy with
  | substitute =>
    rw [enable_of_substitute inactive strategy]
    constructor
    · simp [Context.observers, Primitive.observers, Primitive.monitors, bare, unhooked]
    · simpa [Monitor.countDecorator] using free
  | hooks =>
    rw [enable_of_hooks inactive strategy]
    constructor
    · simp [Context.observers, Primitive.observers, bare]
    · simpa using free

/-- An enabled monitor can be disabled, which restores the context and leaves what the
monitor has counted. -/
theorem disable_of_active {old : Replaced} (active : (r.monitor i).replaced = some old) :
  ∃ context, r.disable i x =
    (.ok,
      { r with
        context := context
        monitor := r.monitor.set i { r.monitor i with replaced := none }
        transcript := r.transcript ++ [.logged .disabled] })
  := by
  rw [disable, active]
  cases old with
  | primitive p => exact ⟨_, rfl⟩
  | hook h => exact ⟨_, rfl⟩

/-- What was replaced when a monitor was enabled is put back when it is disabled. -/
theorem disable_of_enabled {r' : Rig σ} (inactive : (r.monitor i).replaced = none)
    (context : r'.context = (r.enable i x).2.context)
    (replaced : (r'.monitor i).replaced = ((r.enable i x).2.monitor i).replaced) :
  (r'.disable i x).1 = .ok ∧ (r'.disable i x).2.context = r.context
  := by
  cases strategy : (r.monitor i).settings.strategy with
  | substitute =>
    rw [enable_of_substitute inactive strategy] at context replaced
    simp only [Family.set_self] at replaced
    simp [disable, replaced, restore, substitute, setContext, setMonitor, log, emit, context]
  | hooks =>
    rw [enable_of_hooks inactive strategy] at context replaced
    simp only [Family.set_self] at replaced
    simp [disable, replaced, restore, setHook, setContext, setMonitor, log, emit, context]

/-! ### Calls -/

/-- Replacing a handle by one with the same byte changes no byte. -/
theorem byte_setHandle {m : Nat} {h : Handle} (same : h.byte = (r.handle m).byte) (j : Nat) :
  ((r.setHandle m h).handle j).byte = (r.handle j).byte
  := by
  by_cases here : j = m
  · subst here
    simp [setHandle, same]
  · simp [setHandle, here]

/-- The bare primitive changes platform locks, owners and scripts, and nothing else. -/
theorem serveBare_eq (o : Owner) (p : Primitive) (m : Nat) (c : Call) :
  ∃ handle script, (r.serveBare o p m c).2 = { r with handle := handle, script := script }
    ∧ ∀ j, (handle j).byte = (r.handle j).byte
  := by
  rw [serveBare.eq_def]
  split
  · use r.handle, r.script.set p.bottom ((r.script p.bottom).serve c).2
    simp [setScript]
  · split
    · use r.handle, r.script
      simp
    · use r.handle, r.script
      simp
    · use (r.setHandle m ((r.handle m).nativeLock o)).handle, r.script
      simp only [byte_setHandle (Handle.byte_nativeLock _ _), implies_true, and_true]
      rfl
    · use (r.setHandle m ((r.handle m).nativeUnlock o).2).handle, r.script
      simp only [byte_setHandle (Handle.byte_nativeUnlock _ _), implies_true, and_true]
      rfl

variable [Sink σ]

/-- What holds from before to after the work of the bare primitive, and from before to after
each telling of an observer, holds from before to after a call on a primitive with a hook. -/
theorem serve_of_told {R : Responder σ} {P : Rig σ → Rig σ → Prop} (refl : ∀ r, P r r)
    (trans : ∀ r r' r'', P r r' → P r' r'' → P r r'')
    (bare : ∀ r handle script, (∀ j, (handle j).byte = (r.handle j).byte) →
      P r { r with handle := handle, script := script })
    (o : Owner) (p : Primitive) (hook : Option Observer) (m : Nat) (c : Call)
    (told : ∀ a ∈ p.observers hook, ∀ r n, P r (r.notify R n m a)) :
  P r (r.serve R o p hook m c).2
  := by
  have served (r : Rig σ) (c : Call) : P r (r.serveBare o p m c).2 := by
    obtain ⟨handle, script, eq, byte⟩ := serveBare_eq (r := r) o p m c
    rw [eq]
    apply bare r handle script byte
  have all (n : Notice) (os : List Observer) (among : ∀ a ∈ os, a ∈ p.observers hook)
      (r : Rig σ) : P r (r.notifyAll R n m os) := by
    induction os generalizing r with
    | nil => apply refl
    | cons a os ih =>
      apply trans _ _ _ (told a (among a List.mem_cons_self) r n)
      exact ih (fun b mem => among b (List.mem_cons_of_mem a mem)) _
  have outwards (n : Notice) (r : Rig σ) := all n (p.observers hook) (fun _ => id) r
  have inwards (n : Notice) (r : Rig σ) :=
    all n (p.observers hook).reverse (fun _ => List.mem_reverse.mp) r
  rw [serve.eq_def]
  by_cases waits : r.blocks p m c = true
  · simp only [waits]
    apply refl
  · simp only [waits]
    cases c with
    | init => apply trans _ _ _ (served _ _) (outwards _ _)
    | free => apply trans _ _ _ (inwards _ _) (served _ _)
    | lock => apply trans _ _ _ (served _ _) (outwards _ _)
    | unlock => apply trans _ _ _ (inwards _ _) (served _ _)

/-- What holds from before to after the work of the bare primitive, and from before to after
each telling of those who observe a context, holds from before to after a call through it. -/
theorem call_of_told {R : Responder σ} {P : Rig σ → Rig σ → Prop} (refl : ∀ r, P r r)
    (trans : ∀ r r' r'', P r r' → P r' r'' → P r r'')
    (bare : ∀ r handle script, (∀ j, (handle j).byte = (r.handle j).byte) →
      P r { r with handle := handle, script := script })
    (o : Owner) (x m : Nat) (c : Call)
    (told : ∀ a ∈ (r.context x).observers, ∀ r n, P r (r.notify R n m a)) :
  P r (r.call R o x m c).2
  := by
  rw [call_eq_serve]
  exact serve_of_told refl trans bare o _ _ m c told

/-- What holds from before to after each part of a call, the work of the bare primitive and
each telling of an observer, holds from before to after the call. -/
theorem call_of_parts {R : Responder σ} {P : Rig σ → Rig σ → Prop} (refl : ∀ r, P r r)
    (trans : ∀ r r' r'', P r r' → P r' r'' → P r r'')
    (bare : ∀ r handle script, P r { r with handle := handle, script := script })
    (seen : ∀ r k n b, P r (r.emit (.seen k n b)))
    (observed : ∀ r i op m, P r (r.observe R i op m)) (o : Owner) (x m : Nat) (c : Call) :
  P r (r.call R o x m c).2
  := by
  apply call_of_told refl trans fun r handle script _ => bare r handle script
  intro a _ r n
  cases a with
  | monitor i => apply observed
  | recorder k => apply seen

/-- A call on a primitive with one observer is one observation beside the work of the bare
primitive. -/
theorem serve_of_observers {p : Primitive} {hook : Option Observer} {a : Observer}
    (observers : p.observers hook = [a]) (R : Responder σ) (o : Owner) (m : Nat) (c : Call) :
  r.serve R o p hook m c =
    if r.blocks p m c then (.wouldBlock, r)
    else
      match c with
      | .init => (.done, (r.serveBare o p m .init).2.notify R .initialised m a)
      | .free => (.done, ((r.notify R .freeing m a).serveBare o p m .free).2)
      | .lock =>
        (.status (r.serveBare o p m .lock).1,
          (r.serveBare o p m .lock).2.notify R (.locked (r.serveBare o p m .lock).1) m a)
      | .unlock =>
        (.status ((r.notify R .unlocking m a).serveBare o p m .unlock).1,
          ((r.notify R .unlocking m a).serveBare o p m .unlock).2)
  := by
  rw [serve.eq_def, observers]
  rfl

end LockDiscipline.Rig
