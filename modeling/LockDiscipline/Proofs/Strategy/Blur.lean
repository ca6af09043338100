import LockDiscipline.Proofs.Simulation

/-!
# Rigs up to the strategy

Blurring a rig leaves out everything by which it can be told whether a monitor was enabled
by the place of the primitive or by that of the hook: a hook that is a monitor becomes a
decorator, decorators lose their numbers, monitors what they have replaced, and the
transcript the events of enabling.  Whoever is told of the calls of a context is told of
them still, so that blurring is a simulation (`Rig.simulation_blur`), and calls and checks
commute with it.
-/

namespace LockDiscipline

/-- The monitor without what depends on the strategy. -/
def Monitor.blur (x : Monitor) : Monitor :=
  { x with
    settings := { x.settings with strategy := .substitute }
    replaced := none
    decorators := 0 }

/-- The primitive with all of its decorators numbered alike. -/
def Primitive.blur : Primitive → Primitive
  | bare n k => bare n k
  | instrumented p i _ => instrumented p.blur i 0

/-- The context with a hook that is a monitor turned into a decorator. -/
def Context.blur (c : Context) : Context :=
  match c.hook with
  | some (.monitor i) => { primitive := .instrumented c.primitive.blur i 0 }
  | hook => { primitive := c.primitive.blur, hook := hook }

/-- Whether an effect is seen whichever the strategy. -/
def Effect.blurred : Effect → Bool
  | logged (.enabled _) => false
  | _ => true

/-- An effect that is lost when effects are blurred is an event for information. -/
theorem Effect.of_not_blurred {e : Effect} (lost : e.blurred = false) :
  ∃ s, e = .logged (.enabled s)
  := by
  cases e with
  | logged ev =>
    cases ev with
    | enabled s => use s
    | _ => cases lost
  | _ => cases lost

/-- The rig without what depends on the strategy. -/
def Rig.blur {σ : Type} (r : Rig σ) : Rig σ :=
  { r with
    context := fun x => (r.context x).blur
    monitor := fun i => (r.monitor i).blur
    primitives := []
    transcript := r.transcript.filter Effect.blurred }

namespace Primitive

variable (p : Primitive)

@[simp]
theorem kind_blur :
  p.blur.kind = p.kind
  := by
  induction p with
  | bare n k => rfl
  | instrumented p i n ih => apply ih

@[simp]
theorem bottom_blur :
  p.blur.bottom = p.bottom
  := by
  induction p with
  | bare n k => rfl
  | instrumented p i n ih => apply ih

@[simp]
theorem monitors_blur :
  p.blur.monitors = p.monitors
  := by
  induction p with
  | bare n k => rfl
  | instrumented p i n ih => simp [blur, monitors, ih]

end Primitive

namespace Context

variable (c : Context)

/-- The bare primitive at the bottom of a context stays. -/
theorem bottom_blur :
  c.blur.primitive.kind = c.primitive.kind ∧ c.blur.primitive.bottom = c.primitive.bottom
  := by
  rw [blur]
  split
  · exact ⟨c.primitive.kind_blur, c.primitive.bottom_blur⟩
  · exact ⟨c.primitive.kind_blur, c.primitive.bottom_blur⟩

/-- Whoever is told of the calls of a context is told of them still, in the same order. -/
theorem observers_blur :
  c.blur.observers = c.observers
  := by
  rw [blur]
  split
  · next i hook => simp [observers, Primitive.observers, Primitive.monitors, hook]
  · simp [observers, Primitive.observers]

end Context

namespace Rig

variable {σ : Type} (r : Rig σ)

/-! ### Changes of one object -/

theorem blur_emit {e : Effect} (blurred : e.blurred = true) :
  r.blur.emit e = (r.emit e).blur
  := by simp [blur, emit, blurred]

theorem blur_setMonitor (i : Nat) (x : Monitor) :
  r.blur.setMonitor i x.blur = (r.setMonitor i x).blur
  := by
  have monitor : (r.blur.monitor).set i x.blur = (r.setMonitor i x).blur.monitor :=
    (r.monitor.map_set i x Monitor.blur).symm
  rw [setMonitor, monitor]
  rfl

theorem blur_adjust (i : Nat) (f : Tally → Tally) :
  r.blur.adjust i f = (r.adjust i f).blur
  := r.blur_setMonitor i ((r.monitor i).adjust f)

theorem blur_rebase (i : Nat) :
  r.blur.rebase i = (r.rebase i).blur
  := by
  rw [rebase, blur_adjust, log, blur_emit _ rfl]
  rfl

/-- Blurring is a simulation. -/
theorem simulation_blur :
  Simulation fun r r' : Rig σ => r' = r.blur
  := by
  constructor
  case akin =>
    rintro r r' rfl
    constructor
    · rfl
    · rfl
    · intro x
      exact (r.context x).bottom_blur.1
    · intro x
      exact (r.context x).bottom_blur.2
    · intro x
      apply Context.observers_blur
    · intro i
      exact ⟨rfl, rfl, rfl, rfl, rfl⟩
  case change =>
    rintro r r' rfl i c
    have commutes : c.apply (r.blur.monitor i) = (c.apply (r.monitor i)).blur := by
      cases c with
      | _ => rfl
    rw [commutes]
    apply blur_setMonitor
  case emit =>
    rintro r r' rfl e other
    apply r.blur_emit
    cases blurred : e.blurred with
    | true => rfl
    | false =>
      obtain ⟨s, enabled⟩ := Effect.of_not_blurred blurred
      exact (other s enabled).elim
  all_goals
    rintro r r' rfl
    intros
    rfl

/-! ### Calls and checks -/

variable [Sink σ]

theorem blur_observe (i : Nat) (op : Operation) (m : Nat) :
  r.blur.observe silent i op m = (r.observe silent i op m).blur
  := simulation_blur.observe rfl i op m

theorem blur_check (i : Nat) :
  r.blur.check silent i = ((r.check silent i).1, (r.check silent i).2.blur)
  := by
  obtain ⟨answer, checked⟩ := simulation_blur.check (r := r) rfl i
  exact Prod.ext answer checked

theorem blur_call (o : Owner) (x m : Nat) (c : Call) :
  r.blur.call silent o x m c = ((r.call silent o x m c).1, (r.call silent o x m c).2.blur)
  := by
  obtain ⟨answer, called⟩ := simulation_blur.call (r := r) rfl o x m c
  exact Prod.ext answer called

/-- A test case commutes with blurring if its body does, up to what the body answers. -/
theorem blur_runCase {α : Type} {body : Rig σ → (α × Option Panic) × Rig σ} {f : α → α}
    (commutes : ∀ r, body r.blur = ((f (body r).1.1, (body r).1.2), (body r).2.blur))
    (i : Nat) :
  r.blur.runCase silent i body
    = (((r.runCase silent i body).1.1, f (r.runCase silent i body).1.2),
      (r.runCase silent i body).2.blur)
  := by
  have keeps (r r' : Rig σ) (blurred : r' = r.blur) :
      (body r').1.1 = f (body r).1.1 ∧ (body r').1.2 = (body r).1.2
        ∧ (body r').2 = (body r).2.blur := by
    rw [blurred, commutes]
    exact ⟨rfl, rfl, rfl⟩
  obtain ⟨verdict, answers, closed⟩ :=
    simulation_blur.runCase (E := fun a b => b = f a) keeps (r := r) rfl i
  exact Prod.ext (Prod.ext verdict answers) closed

end Rig

end LockDiscipline
