import LockDiscipline.Proofs.Lifecycle.Attention
import LockDiscipline.Proofs.Lifecycle.Restoration

/-!
# Monitors that are not enabled

Any number of monitors are enabled and disabled on any number of contexts, while the library is
used (`Rig.enactAll`).  What succeeds of this is a word of brackets for each context and each
strategy (`Rig.bracketsAt`).  If these words are nested, the monitors that a slot tells of calls
are among those that are enabled there (`Rig.Ordered`), so a call changes no monitor that is not
enabled, and calls no sink on its behalf.

Otherwise a monitor can be put back by the end of another one that had replaced it.  It lingers
(`Rig.Lingers`) while some slot holds it, or some monitor has saved a part that does.  Nothing
but enabling it makes a monitor linger (`Rig.lingers_of_enact`), so a monitor that is not enabled
can still come to observe calls exactly if it lingers (`Rig.lingers_iff`).
-/

namespace LockDiscipline

open Discipline (Request)

/-- An act on one of the contexts. -/
structure ActAt where
  context : Nat
  act : Act
  deriving DecidableEq, Repr

/-! ### Stowed monitors -/

/-- A slot holds `v`, which tells no observers but the monitors listed: each of them has saved
what the slot held below it, and at the bottom nobody is told. -/
inductive Stowed (saved : Nat → Option Replaced) : List Nat → Replaced → Prop
  | bottom {v : Replaced} : v.observers = [] → Stowed saved [] v
  | layer {i : Nat} {below : List Nat} {old v : Replaced} :
      saved i = some old → i ∉ below → old.strategy = v.strategy →
      v.observers ⊆ .monitor i :: old.observers →
      Stowed saved below old → Stowed saved (i :: below) v

namespace Stowed

variable {saved saved' : Nat → Option Replaced} {layers : List Nat} {v : Replaced} {i : Nat}

/-- A layer is a monitor that is enabled, and has saved what belongs into the slot. -/
theorem of_mem (h : Stowed saved layers v) (mem : i ∈ layers) :
  ∃ old, saved i = some old ∧ old.strategy = v.strategy
  := by
  induction h with
  | bottom => cases mem
  | @layer j below old v save _ same _ _ ih =>
    obtain rfl | mem := List.mem_cons.mp mem
    · use old
    · obtain ⟨older, save, same'⟩ := ih mem
      use older, save, same'.trans same

/-- Those who are told are layers. -/
theorem mem_of_told (h : Stowed saved layers v) (told : .monitor i ∈ v.observers) :
  i ∈ layers
  := by
  induction h with
  | bottom none =>
    rw [none] at told
    cases told
  | @layer j below old v _ _ _ among _ ih =>
    obtain here | inner := List.mem_cons.mp (among told)
    · obtain rfl := Observer.monitor.inj here
      exact List.mem_cons_self
    · exact List.mem_cons_of_mem j (ih inner)

/-- Only what the layers have saved matters. -/
theorem congr (h : Stowed saved layers v) (same : ∀ i ∈ layers, saved' i = saved i) :
  Stowed saved' layers v
  := by
  induction h with
  | bottom none => exact .bottom none
  | @layer j below old v save fresh kind among _ ih =>
    apply layer _ fresh kind among (ih fun i mem => same i (List.mem_cons_of_mem j mem))
    rw [same j List.mem_cons_self, save]

end Stowed

namespace Rig

variable {σ : Type} {r r' : Rig σ} {i x : Nat} {s : Strategy} {v : Replaced}

/-- What a monitor that is enabled puts in place tells the monitor, and those who were told
before. -/
theorem observers_enable {saved : Option Replaced} (inactive : (r.monitor i).replaced = none)
    (kind : v.strategy = r.strategy i) (puts : Puts i x v saved r (r.enable i x).2) :
  v.observers ⊆ .monitor i :: ((r.context x).slot v.strategy).observers
  := by
  have holds : ((r.enable i x).2.context x).slot v.strategy = v := by
    rw [puts.context, Family.set_self, Context.slot_put_self]
  have tells : (((r.enable i x).2.context x).slot v.strategy).observers
      ⊆ .monitor i :: ((r.context x).slot v.strategy).observers := by
    rw [kind]
    cases strategy : r.strategy i with
    | substitute =>
      rw [enable_of_substitute inactive strategy]
      simp [Context.slot, Replaced.observers, Primitive.monitors]
    | hooks =>
      rw [enable_of_hooks inactive strategy]
      simp [Context.slot, Replaced.observers]
  rwa [holds] at tells

/-! ### Monitors in order -/

/-- In the slot of each context and strategy lie the given layers, and no monitor lies in
two contexts. -/
structure Ordered (r : Rig σ) (layers : Nat → Strategy → List Nat) : Prop where
  stowed : ∀ x s, Stowed (fun i => (r.monitor i).replaced) (layers x s) ((r.context x).slot s)
  apart : ∀ {i x y s s'}, i ∈ layers x s → i ∈ layers y s' → x = y

namespace Ordered

variable {layers layers' : Nat → Strategy → List Nat}

theorem of_unobserved (unobserved : ∀ x, (r.context x).observers = []) :
  Ordered r fun _ _ => []
  := by
  constructor
  case stowed =>
    intro x s
    apply Stowed.bottom
    apply List.eq_nil_iff_forall_not_mem.mpr
    intro a mem
    have told := Context.mem_observers_iff.mpr ⟨s, mem⟩
    rw [unobserved] at told
    cases told
  case apart => exact nofun

/-- A layer is enabled, with the strategy of the slot. -/
theorem of_mem (h : Ordered r layers) (mem : i ∈ layers x s) :
  ∃ old, (r.monitor i).replaced = some old ∧ old.strategy = s
  := by
  obtain ⟨old, replaced, kind⟩ := (h.stowed x s).of_mem mem
  rw [Context.strategy_slot] at kind
  use old

/-- A monitor that heeds the rig is enabled. -/
theorem active_of_heeds (h : Ordered r layers) (heeds : r.Heeds i) :
  (r.monitor i).active = true
  := by
  obtain ⟨x, told⟩ := heeds
  obtain ⟨s, told⟩ := Context.mem_observers_iff.mp told
  obtain ⟨old, replaced, -⟩ := h.of_mem ((h.stowed x s).mem_of_told told)
  rw [Monitor.active, replaced]
  rfl

theorem congr (h : Ordered r layers) (same : r'.installation = r.installation) :
  Ordered r' layers
  := by
  obtain ⟨context, monitor⟩ := Prod.mk.inj same
  constructor
  case stowed =>
    intro x s
    rw [context]
    exact (h.stowed x s).congr fun i _ => congrArg Prod.snd (congrFun monitor i)
  case apart => exact h.apart

/-- A monitor that is enabled becomes the topmost layer of its slot. -/
theorem push (h : Ordered r layers) (inactive : (r.monitor i).replaced = none)
    (puts : Puts i x v (some ((r.context x).slot v.strategy)) r r')
    (among : v.observers ⊆ .monitor i :: ((r.context x).slot v.strategy).observers)
    (own : layers' x v.strategy = i :: layers x v.strategy)
    (others : ∀ y s, (y ≠ x ∨ s ≠ v.strategy) → layers' y s = layers y s) :
  Ordered r' layers'
  := by
  have fresh (y : Nat) (s : Strategy) : i ∉ layers y s := by
    intro mem
    obtain ⟨old, replaced, -⟩ := h.of_mem mem
    cases inactive.symm.trans replaced
  have below (y : Nat) (s : Strategy) :
      Stowed (fun j => (r'.monitor j).replaced) (layers y s) ((r.context y).slot s) := by
    apply (h.stowed y s).congr
    intro j mem
    rw [puts.replaced, if_neg (ne_of_mem_of_not_mem mem (fresh y s))]
  constructor
  case stowed =>
    intro y s
    rw [puts.context]
    by_cases away : y = x
    · subst away
      rw [Family.set_self]
      by_cases here : s = v.strategy
      · subst here
        rw [own, Context.slot_put_self]
        apply Stowed.layer _ (fresh y _) _ among (below y _)
        · simp only [puts.replaced, if_true]
        · simp
      · rw [others y s (.inr here), Context.slot_put_of_ne _ here]
        exact below y s
    · rw [Family.set_of_ne _ _ away, others y s (.inl away)]
      exact below y s
  case apart =>
    -- A layer is new or was one before, and the new one was none.
    have place {j y : Nat} {s : Strategy} (mem : j ∈ layers' y s) :
        j = i ∧ y = x ∨ j ≠ i ∧ j ∈ layers y s := by
      by_cases here : y = x ∧ s = v.strategy
      · obtain ⟨rfl, rfl⟩ := here
        rw [own] at mem
        obtain rfl | mem := List.mem_cons.mp mem
        · exact .inl ⟨rfl, rfl⟩
        · exact .inr ⟨ne_of_mem_of_not_mem mem (fresh _ _), mem⟩
      · rw [others y s (not_and_or.mp here)] at mem
        exact .inr ⟨ne_of_mem_of_not_mem mem (fresh _ _), mem⟩
    intro j y z s s' mem mem'
    obtain ⟨same, rfl⟩ | ⟨other, before⟩ := place mem
    · obtain ⟨-, rfl⟩ | ⟨other', -⟩ := place mem'
      · rfl
      · exact absurd same other'
    · obtain ⟨same, -⟩ | ⟨-, before'⟩ := place mem'
      · exact absurd same other
      · exact h.apart before before'

/-- When the topmost layer of a slot is taken off, the slot holds what lay below. -/
theorem pop (h : Ordered r layers) (replaced : (r.monitor i).replaced = some v)
    (puts : Puts i x v none r r') (own : layers x s = i :: layers' x s)
    (others : ∀ y s', (y ≠ x ∨ s' ≠ s) → layers' y s' = layers y s') :
  Ordered r' layers'
  := by
  have top : i ∈ layers x s := own ▸ List.mem_cons_self
  have sole {y : Nat} {s' : Strategy} (mem : i ∈ layers y s') : y = x ∧ s' = s := by
    obtain ⟨old, saved, kind⟩ := h.of_mem top
    obtain ⟨old', saved', kind'⟩ := h.of_mem mem
    obtain rfl := Option.some.inj (saved.symm.trans saved')
    exact ⟨h.apart mem top, kind'.symm.trans kind⟩
  have among {j y : Nat} {s' : Strategy} (mem : j ∈ layers' y s') : j ∈ layers y s' := by
    by_cases here : y = x ∧ s' = s
    · obtain ⟨rfl, rfl⟩ := here
      rw [own]
      exact List.mem_cons_of_mem i mem
    · rwa [others y s' (not_and_or.mp here)] at mem
  have kind : v.strategy = s := by
    obtain ⟨old, saved, kind⟩ := h.of_mem top
    obtain rfl := Option.some.inj (replaced.symm.trans saved)
    exact kind
  subst kind
  have rest (y : Nat) (s' : Strategy) (there : y ≠ x ∨ s' ≠ v.strategy) :
      Stowed (fun j => (r'.monitor j).replaced) (layers' y s') ((r.context y).slot s') := by
    rw [others y s' there]
    apply (h.stowed y s').congr
    intro j mem
    have apart : j ≠ i := by
      rintro rfl
      obtain ⟨rfl, rfl⟩ := sole mem
      simp at there
    rw [puts.replaced, if_neg apart]
  constructor
  case stowed =>
    intro y s'
    rw [puts.context]
    by_cases away : y = x
    · subst away
      rw [Family.set_self]
      by_cases here : s' = v.strategy
      · subst here
        have stack := h.stowed y v.strategy
        rw [own] at stack
        rw [Context.slot_put_self]
        cases stack with
        | layer saved fresh _ _ below =>
          obtain rfl := Option.some.inj (replaced.symm.trans saved)
          apply below.congr
          intro j mem
          rw [puts.replaced, if_neg (ne_of_mem_of_not_mem mem fresh)]
      · rw [Context.slot_put_of_ne _ here]
        exact rest y s' (.inr here)
    · rw [Family.set_of_ne _ _ away]
      exact rest y s' (.inl away)
  case apart => exact fun mem mem' => h.apart (among mem) (among mem')

end Ordered

/-! ### Monitors that linger -/

/-- Some slot holds `v`, or some monitor has saved it. -/
def Stores (r : Rig σ) (v : Replaced) : Prop :=
  (∃ x s, (r.context x).slot s = v) ∨ ∃ j, (r.monitor j).replaced = some v

/-- What tells monitor `i` of calls is in place somewhere, or has been saved. -/
def Lingers (i : Nat) (r : Rig σ) : Prop := ∃ v, r.Stores v ∧ .monitor i ∈ v.observers

theorem lingers_of_heeds (heeds : r.Heeds i) :
  r.Lingers i
  := by
  obtain ⟨x, told⟩ := heeds
  obtain ⟨s, told⟩ := Context.mem_observers_iff.mp told
  exact ⟨_, .inl ⟨x, s, rfl⟩, told⟩

/-- What is stored was put in place, or saved, or was stored before. -/
theorem Puts.stores {saved : Option Replaced} {w : Replaced} (puts : Puts i x v saved r r')
    (stores : r'.Stores w) :
  w = v ∨ saved = some w ∨ r.Stores w
  := by
  obtain ⟨y, s, slot⟩ | ⟨j, replaced⟩ := stores
  · rw [puts.context] at slot
    by_cases away : y = x
    · subst away
      rw [Family.set_self] at slot
      by_cases here : s = v.strategy
      · subst here
        rw [Context.slot_put_self] at slot
        exact .inl slot.symm
      · rw [Context.slot_put_of_ne _ here] at slot
        exact .inr (.inr (.inl ⟨y, s, slot⟩))
    · rw [Family.set_of_ne _ _ away] at slot
      exact .inr (.inr (.inl ⟨y, s, slot⟩))
  · rw [puts.replaced] at replaced
    by_cases here : j = i
    · rw [if_pos here] at replaced
      exact .inr (.inl replaced)
    · rw [if_neg here] at replaced
      exact .inr (.inr (.inr ⟨j, replaced⟩))

/-! ### Turns -/

variable [Sink σ] {R : Responder σ} {ds : List ActAt}

/-- The rig after an act. -/
def enact (R : Responder σ) (r : Rig σ) (d : ActAt) : Rig σ := r.act R d.context d.act

/-- The rig after some acts. -/
def enactAll (R : Responder σ) (r : Rig σ) (ds : List ActAt) : Rig σ := ds.foldl (enact R) r

/-- The bracket of context `x` and strategy `s` that an act amounts to, if it succeeds. -/
def bracketAt? (s : Strategy) (x : Nat) (r : Rig σ) (d : ActAt) : Option Bracket :=
  if d.context = x then r.bracket? s x d.act else none

/-- The brackets of context `x` and strategy `s` that some acts amount to. -/
def bracketsAt (R : Responder σ) (s : Strategy) (x : Nat) : Rig σ → List ActAt → List Bracket
  | _, [] => []
  | r, d :: ds => (r.bracketAt? s x d).toList ++ bracketsAt R s x (r.enact R d) ds

theorem enactAll_concat (r : Rig σ) (ds : List ActAt) (d : ActAt) :
  r.enactAll R (ds ++ [d]) = (r.enactAll R ds).enact R d
  := by
  rw [enactAll, List.foldl_append]
  rfl

theorem bracketsAt_concat (r : Rig σ) (ds : List ActAt) (d : ActAt) :
  bracketsAt R s x r (ds ++ [d])
    = bracketsAt R s x r ds ++ ((r.enactAll R ds).bracketAt? s x d).toList
  := by
  induction ds generalizing r with
  | nil => exact List.append_nil _
  | cons u ds ih =>
    rw [List.cons_append, bracketsAt, ih, bracketsAt, List.append_assoc]
    rfl

/-- An act leaves monitors in order if its brackets are those of the layers. -/
theorem Ordered.enact {layers layers' : Nat → Strategy → List Nat} (h : Ordered r layers)
    (steady : R.Steady) (d : ActAt)
    (walks : ∀ x s, Bracket.walk (layers x s) (r.bracketAt? s x d).toList = some (layers' x s)) :
  Ordered (r.enact R d) layers'
  := by
  obtain ⟨x, a⟩ := d
  have unchanged {y : Nat} {s : Strategy} (none : r.bracketAt? s y ⟨x, a⟩ = none) :
      layers' y s = layers y s := by
    have walk := walks y s
    rw [none] at walk
    exact (Option.some.inj walk).symm
  have elsewhere {y : Nat} (away : y ≠ x) (s : Strategy) : layers' y s = layers y s :=
    unchanged (if_neg away.symm)
  have here (s : Strategy) : r.bracketAt? s x ⟨x, a⟩ = r.bracket? s x a := if_pos rfl
  cases course_act steady x r a with
  | idle none same =>
    have all : layers' = layers := by
      funext y s
      by_cases away : y = x
      · subst away
        exact unchanged ((here s).trans (none s))
      · exact elsewhere away s
    rw [all]
    exact h.congr same
  | @enabled i v _ inactive kind opens puts =>
    apply h.push inactive puts (observers_enable inactive kind puts)
    · have walk := walks x v.strategy
      rw [here, opens, if_pos rfl] at walk
      exact (Option.some.inj walk).symm
    · intro y s there
      by_cases away : y = x
      · subst away
        exact unchanged ((here s).trans ((opens s).trans (if_neg (there.resolve_left (· rfl)))))
      · exact elsewhere away s
  | @disabled i v _ replaced closes puts =>
    have walk := walks x (r.strategy i)
    rw [here, closes, if_pos rfl] at walk
    apply h.pop replaced puts (Bracket.walk_closes walk)
    intro y s there
    by_cases away : y = x
    · subst away
      exact unchanged ((here s).trans ((closes s).trans (if_neg (there.resolve_left (· rfl)))))
    · exact elsewhere away s

/-- While brackets are nested, monitors are in order. -/
theorem ordered_enactAll (steady : R.Steady) (unobserved : ∀ x, (r.context x).observers = [])
    (nested : ∀ x s, Bracket.Nested (bracketsAt R s x r ds)) :
  ∃ layers, Ordered (r.enactAll R ds) layers
    ∧ ∀ x s, Bracket.walk [] (bracketsAt R s x r ds) = some (layers x s)
  := by
  induction ds using List.reverseRecOn with
  | nil => exact ⟨_, .of_unobserved unobserved, fun _ _ => rfl⟩
  | append_singleton ds d ih =>
    obtain ⟨layers, ordered, walks⟩ := ih fun x s => by
      have word := nested x s
      rw [bracketsAt_concat] at word
      exact word.of_append
    choose layers' walks' using fun x s => (nested x s).walk
    use layers'
    rw [enactAll_concat]
    refine ⟨ordered.enact steady d ?_, walks'⟩
    intro x s
    have walk := walks' x s
    rwa [bracketsAt_concat, Bracket.walk_append, walks] at walk

/-- A monitor lingers after an act only if it was enabled by it or has lingered before. -/
theorem lingers_of_enact (steady : R.Steady) {d : ActAt} (other : d.act ≠ .enable i)
    (lingers : (r.enact R d).Lingers i) :
  r.Lingers i
  := by
  obtain ⟨x, a⟩ := d
  obtain ⟨v, stores, told⟩ := lingers
  cases course_act steady x r a with
  | idle _ same =>
    obtain ⟨context, monitor⟩ := Prod.mk.inj same
    have replaced (j : Nat) : ((r.act R x a).monitor j).replaced = (r.monitor j).replaced :=
      congrArg Prod.snd (congrFun monitor j)
    refine ⟨v, ?_, told⟩
    simpa only [Stores, enact, context, replaced] using stores
  | @enabled j w _ inactive kind _ puts =>
    have apart : (.monitor i : Observer) ≠ .monitor j := by
      intro same
      obtain rfl := Observer.monitor.inj same
      exact other rfl
    obtain rfl | saved | before := puts.stores stores
    · have inner := List.mem_of_ne_of_mem apart (observers_enable inactive kind puts told)
      exact ⟨_, .inl ⟨x, v.strategy, rfl⟩, inner⟩
    · exact ⟨v, .inl ⟨x, w.strategy, Option.some.inj saved⟩, told⟩
    · exact ⟨v, before, told⟩
  | @disabled j w _ replaced _ puts =>
    obtain rfl | saved | before := puts.stores stores
    · exact ⟨v, .inr ⟨j, replaced⟩, told⟩
    · cases saved
    · exact ⟨v, before, told⟩

theorem lingers_of_enactAll (steady : R.Steady) (others : ∀ d ∈ ds, d.act ≠ .enable i)
    (lingers : (r.enactAll R ds).Lingers i) :
  r.Lingers i
  := by
  induction ds generalizing r with
  | nil => exact lingers
  | cons d ds ih =>
    apply lingers_of_enact steady (others d List.mem_cons_self)
    exact ih (fun d mem => others d (List.mem_cons_of_mem _ mem)) lingers

/-! ### Observing again -/

/-- Whatever sinks do, a monitor whose guard is free counts when it is told of an
initialisation, and no other monitor changes. -/
theorem monitor_notify_initialised (R : Responder σ) (m : Nat) (a : Observer)
    (free : (r.monitor i).tally.held = false) :
  (r.notify R .initialised m a).monitor i
    = if a = .monitor i then (r.monitor i).adjust (·.count 1) else r.monitor i
  := by
  cases a with
  | monitor j =>
    have unreported : r.observe R j .init m = r.observe silent j .init m := by
      simp [observe, guarded, judge]
    rw [notify, Notice.operation, unreported]
    by_cases here : j = i
    · subst here
      rw [observe_of_ok free (transition_init _), if_pos rfl]
      exact Family.set_self _ _ _
    · have other : ¬ (.monitor j : Observer) = .monitor i :=
        fun same => here (Observer.monitor.inj same)
      rw [if_neg other, observe]
      cases (r.monitor j).attempt with
      | acquired => simp [guarded, judge, adjust, setHandle, setMonitor, Ne.symm here]
      | busy => rfl
      | waiting => rfl
  | recorder k => rfl

/-- So it counts the initialisation of a handle as often as it is told of it. -/
theorem live_call_init (R : Responder σ) (o : Owner) (x m : Nat)
    (free : (r.monitor i).tally.held = false) :
  ((r.call R o x m .init).2.monitor i).tally.value.live
    = (r.monitor i).tally.value.live + (r.context x).observers.count (.monitor i)
  := by
  have told (os : List Observer) (r : Rig σ) (free : (r.monitor i).tally.held = false) :
      ((r.notifyAll R .initialised m os).monitor i).tally.value.live
        = (r.monitor i).tally.value.live + os.count (.monitor i) := by
    induction os generalizing r with
    | nil => exact (Int.add_zero _).symm
    | cons a os ih =>
      have next := monitor_notify_initialised R m a free
      by_cases here : a = .monitor i
      · rw [if_pos here] at next
        have rest := ih (r.notify R .initialised m a) (by rw [next]; exact free)
        rw [next] at rest
        apply rest.trans
        simp only [Monitor.adjust, Guard.put, Tally.count, here, List.count_cons_self]
        omega
      · rw [if_neg here] at next
        have rest := ih (r.notify R .initialised m a) (by rw [next]; exact free)
        rw [next] at rest
        rw [List.count_cons_of_ne here]
        exact rest
  obtain ⟨handle, script, served, -⟩ :=
    serveBare_eq (r := r) o (r.context x).primitive m .init
  have called : (r.call R o x m .init).2
      = (r.serveBare o (r.context x).primitive m .init).2.notifyAll R .initialised m
        (r.context x).observers := by
    rw [call_eq_serve]
    rfl
  rw [called, served]
  exact told _ { r with handle := handle, script := script } free

/-- A monitor that is not enabled can come to observe calls without being enabled again,
exactly if it lingers. -/
theorem lingers_iff (mediated : R.Mediated) (inactive : (r.monitor i).active = false)
    (free : (r.monitor i).tally.held = false) :
  r.Lingers i ↔ ∃ later : List ActAt, (∀ d ∈ later, d.act ≠ .enable i)
    ∧ ∃ (x : Nat) (q : Request),
      ((r.enactAll R later).call R q.owner x q.handle q.call).2.monitor i
        ≠ (r.enactAll R later).monitor i
  := by
  constructor
  · have observes {r : Rig σ} (free : (r.monitor i).tally.held = false) (heeds : r.Heeds i) :
        ∃ (x : Nat) (q : Request),
          (r.call R q.owner x q.handle q.call).2.monitor i ≠ r.monitor i := by
      obtain ⟨x, told⟩ := heeds
      use x, ⟨.worker 0, 0, .init⟩
      intro same
      have live := live_call_init R (.worker 0) x 0 free
      have often : 0 < (r.context x).observers.count (.monitor i) := List.count_pos_iff.mpr told
      rw [same] at live
      omega
    rintro ⟨v, ⟨x, s, rfl⟩ | ⟨j, saved⟩, told⟩
    · exact ⟨[], nofun, observes free ⟨x, Context.mem_observers_iff.mpr ⟨s, told⟩⟩⟩
    -- Another monitor has saved it, and puts it back when it is disabled.
    · have other : i ≠ j := by
        rintro rfl
        rw [Monitor.active, saved] at inactive
        cases inactive
      obtain ⟨-, puts⟩ := disable_of_replaced 0 saved
      obtain ⟨_, disabled⟩ := disable_of_active (x := 0) saved
      have unchanged : (r.disable j 0).2.monitor i = r.monitor i := by
        rw [disabled]
        exact Family.set_of_ne _ _ other
      have heeds : (r.disable j 0).2.Heeds i := by
        use 0
        apply Context.mem_observers_iff.mpr
        use v.strategy
        rw [puts.context, Family.set_self, Context.slot_put_self]
        exact told
      refine ⟨[⟨0, .disable j⟩], by simp, ?_⟩
      exact observes (r := (r.disable j 0).2) (by rw [unchanged]; exact free) heeds
  · rintro ⟨later, others, x, q, changed⟩
    apply lingers_of_enactAll mediated.steady others
    apply lingers_of_heeds
    by_contra deaf
    exact changed ((Attended.call mediated q.owner x q.handle q.call).monitor i deaf)

/-- A monitor that is not enabled observes nothing, as long as monitors are enabled and disabled
in a nested way on each context.  Starting from contexts that nobody observes, a call changes
only monitors that are enabled by then, and calls only sinks of these.  In whichever order
monitors are enabled and disabled, one that is not enabled can come to observe calls without
being enabled again, exactly if it lingers in a slot or in what some other monitor has saved. -/
theorem call_spares_inactive (mediated : R.Mediated)
    (unobserved : ∀ x, (r.context x).observers = []) (ds : List ActAt) :
  let now := r.enactAll R ds
  ((∀ x s, Bracket.Nested (bracketsAt R s x r ds)) →
      ∀ (x : Nat) (q : Request), let after := (now.call R q.owner x q.handle q.call).2
        (∀ i, (now.monitor i).active = false → after.monitor i = now.monitor i)
          ∧ ∃ new, after.transcript = now.transcript ++ new
            ∧ ∀ s c, .told s c ∈ new →
              ∃ i, (now.monitor i).active = true ∧ (now.monitor i).sink = s)
    ∧ ∀ i, (now.monitor i).active = false → (now.monitor i).tally.held = false →
      (now.Lingers i ↔ ∃ later : List ActAt, (∀ d ∈ later, d.act ≠ .enable i)
        ∧ ∃ (x : Nat) (q : Request),
          ((now.enactAll R later).call R q.owner x q.handle q.call).2.monitor i
            ≠ (now.enactAll R later).monitor i)
  := by
  intro now
  constructor
  · intro nested x q after
    obtain ⟨layers, ordered, -⟩ := ordered_enactAll mediated.steady unobserved nested
    have attended : Attended now after := .call mediated q.owner x q.handle q.call
    constructor
    · intro i inactive
      apply attended.monitor
      intro heeds
      cases inactive.symm.trans (ordered.active_of_heeds heeds)
    · obtain ⟨new, transcript, told⟩ := attended.told
      refine ⟨new, transcript, ?_⟩
      intro s c mem
      obtain ⟨i, heeds, sink⟩ := told s c mem
      exact ⟨i, ordered.active_of_heeds heeds, sink⟩
  · exact fun i => lingers_iff mediated

/-- A rig with contexts that nobody observes.  One of the monitors takes the place of hooks, the
others of primitives, and each has a sink of its own. -/
def arcade : Rig CaseRecord where
  handle _ := {}
  script _ := {}
  context _ := { primitive := .bare 0 .native }
  monitor i := { sink := i, settings := { strategy := if i = 3 then .hooks else .substitute } }
  sink _ := .fresh
  slot _ := {}
  primitives := []
  started := 0
  transcript := []

/-- Two monitors are disabled on a context in the order in which they were enabled. -/
def crossed : List ActAt := [⟨0, .enable 0⟩, ⟨0, .enable 1⟩, ⟨0, .disable 0⟩, ⟨0, .disable 1⟩]

/-- Monitors are enabled and disabled on two contexts, where they cross, as do those of different
strategies on the same. -/
def relays : List ActAt :=
  [⟨0, .enable 0⟩, ⟨1, .enable 1⟩, ⟨0, .enable 2⟩, ⟨0, .enable 3⟩, ⟨1, .disable 1⟩,
    ⟨0, .touch (.call (.worker 0) 0 0 .unlock)⟩, ⟨0, .disable 2⟩]

/-- The monitor that was enabled first is not enabled any more in the end, but it counts a handle
that is initialised, and its sink is called when a handle is locked that was not. -/
theorem counts_while_inactive :
  let now := arcade.enactAll silent crossed
  (∀ x, (arcade.context x).observers = [])
    ∧ (now.monitor 0).active = false
    ∧ (now.monitor 0).tally.value.live = 0
    ∧ ((now.call silent (.worker 0) 0 0 .init).2.monitor 0).tally.value.live = 1
    ∧ (now.call silent (.worker 0) 0 0 .lock).2.transcript
      = now.transcript ++ [.told 0 (.record .lockWithoutInit),
        .logged (.violated .lockWithoutInit (.lock true)), .echoed "[mutex: lock without init] "]
  := by
  refine ⟨fun _ => rfl, ?_⟩
  decide +kernel

/-- Where brackets are nested, monitors that are not enabled any more observe nothing; where they
are crossed, the one that lingers does. -/
theorem call_spares_inactive_relays :
  let R : Responder CaseRecord := probed meddler 1
  (∀ x s, Bracket.Nested (bracketsAt R s x arcade relays))
    ∧ ((arcade.enactAll R relays).monitor 2).active = false
    ∧ (∀ q : Request, ((arcade.enactAll R relays).call R q.owner 0 q.handle q.call).2.monitor 2
      = (arcade.enactAll R relays).monitor 2)
    ∧ (arcade.enactAll R crossed).Lingers 0
    ∧ ∃ later : List ActAt, (∀ d ∈ later, d.act ≠ .enable 0)
      ∧ ∃ (x : Nat) (q : Request),
        (((arcade.enactAll R crossed).enactAll R later).call R q.owner x q.handle
          q.call).2.monitor 0
          ≠ ((arcade.enactAll R crossed).enactAll R later).monitor 0
  := by
  intro R
  have mediated : R.Mediated := by
    apply mediated_probed
    intro s k d mem
    cases k with
    | record =>
      obtain rfl := List.mem_singleton.mp mem
      exact ⟨_, _, _, _, rfl⟩
    | _ => cases mem
  have single (i : Nat) : Bracket.Balanced [.opens i, .closes i] := .pair .nil .nil
  have nested : ∀ x s, Bracket.Nested (bracketsAt R s x arcade relays) := by
    intro x s
    by_cases first : x = 0
    · subst first
      cases s with
      | substitute =>
        have word : bracketsAt R .substitute 0 arcade relays = [.opens 0, .opens 2, .closes 2] := by
          decide +kernel
        rw [word]
        exact ⟨[.closes 0], (single 2).pair .nil⟩
      | hooks =>
        have word : bracketsAt R .hooks 0 arcade relays = [.opens 3] := by decide +kernel
        rw [word]
        exact ⟨[.closes 3], single 3⟩
    · by_cases second : x = 1
      · subst second
        cases s with
        | substitute =>
          have word : bracketsAt R .substitute 1 arcade relays = [.opens 1, .closes 1] := by
            decide +kernel
          rw [word]
          exact ⟨[], single 1⟩
        | hooks =>
          have word : bracketsAt R .hooks 1 arcade relays = [] := by decide +kernel
          rw [word]
          exact ⟨[], .nil⟩
      · have word : bracketsAt R s x arcade relays = [] := by
          simp [relays, bracketsAt, bracketAt?, Ne.symm first, Ne.symm second]
        rw [word]
        exact ⟨[], .nil⟩
  have inactive : ((arcade.enactAll R relays).monitor 2).active = false := by decide +kernel
  have unobserved : ∀ x, (arcade.context x).observers = [] := fun _ => rfl
  obtain ⟨spares, -⟩ := call_spares_inactive mediated unobserved relays
  have lingers : (arcade.enactAll R crossed).Lingers 0 := by
    apply lingers_of_heeds
    use 0
    decide +kernel
  obtain ⟨-, exact_⟩ := call_spares_inactive mediated unobserved crossed
  have later := (exact_ 0 (by decide +kernel) (by decide +kernel)).mp lingers
  refine ⟨nested, inactive, ?_, lingers, ?_⟩
  · intro q
    obtain ⟨unchanged, -⟩ := spares nested 0 q
    exact unchanged 2 inactive
  · exact later

end Rig

end LockDiscipline
