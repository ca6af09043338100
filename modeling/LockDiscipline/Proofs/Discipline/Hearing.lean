import LockDiscipline.Proofs.Discipline.Detection
import LockDiscipline.Proofs.Findings

/-!
# What a monitor hears of a call

A call has two sides.  What bare primitives make of it depends on the platform only, which is
a rig without bytes, monitors and sinks (`Rig.platform`); no monitor has any influence on it
(`Rig.platform_call`).  What the monitor hears of it are the operations that it amounts to, and
`Rig.Hears` says what they do to bytes, to the count and to the sink: one operation if the
call is made and the guard is free (`Rig.hears_call`), and none while somebody else holds the
guard (`Rig.hears_guarded_call`).
-/

namespace LockDiscipline

open Discipline (Request)

/-- The bare primitive at the bottom. -/
def Primitive.base (p : Primitive) : Primitive := .bare p.bottom p.kind

/-! ### The platform -/

namespace Rig

variable {σ : Type}

/-- What bare primitives see of a rig: contexts, scripts, and handles without their bytes. -/
def platform (r : Rig σ) : Rig CaseRecord where
  handle m := { r.handle m with byte := 0 }
  script := r.script
  context := r.context
  monitor _ := { sink := 0 }
  sink _ := .fresh
  slot _ := {}
  primitives := []
  started := 0
  transcript := []

theorem platform_setHandle {r : Rig σ} {m : Nat} {h h' : Handle}
    (same : h' = { h with byte := 0 }) :
  r.platform.setHandle m h' = (r.setHandle m h).platform
  := by
  have handle : r.platform.handle.set m h' = (r.setHandle m h).platform.handle := by
    funext n
    by_cases here : n = m
    · subst here
      simp [platform, setHandle, same]
    · simp [platform, setHandle, here]
  rw [setHandle, handle]
  rfl

/-- Marking a handle does not matter to the platform. -/
theorem platform_mark (r : Rig σ) (m : Nat) (b : UInt8) :
  (r.setHandle m { r.handle m with byte := b }).platform = r.platform
  := by
  have marked : r.platform.setHandle m (r.platform.handle m)
      = (r.setHandle m { r.handle m with byte := b }).platform := platform_setHandle rfl
  rw [← marked, setHandle, Family.set_get]

theorem platform_serveBare (r : Rig σ) (o : Owner) (p : Primitive) (m : Nat) (c : Call) :
  r.platform.serveBare o p.base m c
    = ((r.serveBare o p m c).1, (r.serveBare o p m c).2.platform)
  := by
  have kind : p.base.kind = p.kind := rfl
  rw [serveBare.eq_def, serveBare.eq_def, kind]
  split
  · rfl
  · cases c with
    | init => rfl
    | free => rfl
    | lock =>
      have locked : r.platform.setHandle m ((r.platform.handle m).nativeLock o)
          = (r.setHandle m ((r.handle m).nativeLock o)).platform := platform_setHandle rfl
      simp only [locked]
    | unlock =>
      have blank : (r.platform.handle m).nativeUnlock o
          = (((r.handle m).nativeUnlock o).1,
            { ((r.handle m).nativeUnlock o).2 with byte := 0 }) := by
        by_cases owner : (r.handle m).owner = some o
        · simp [platform, Handle.nativeUnlock, Handle.disown?, owner, Handle.release]
        · simp [platform, Handle.nativeUnlock, Handle.disown?, owner]
      have unlocked : r.platform.setHandle m { ((r.handle m).nativeUnlock o).2 with byte := 0 }
          = (r.setHandle m ((r.handle m).nativeUnlock o).2).platform := platform_setHandle rfl
      simp only [blank, unlocked]

variable [Sink σ]

theorem platform_observe (r : Rig σ) (i : Nat) (op : Operation) (m : Nat) :
  (r.observe silent i op m).platform = r.platform
  := by
  obtain ⟨c, counted⟩ | ⟨v, reported⟩ | skipped | waits := observe_cases (r := r) i op m
  · rw [counted]
    apply platform_mark
  · rw [reported, report_eq]
    rfl
  · rw [skipped]
    rfl
  · rw [waits]

theorem platform_notifyAll (r : Rig σ) (n : Notice) (m : Nat) (os : List Observer) :
  (r.notifyAll silent n m os).platform = r.platform
  := by
  induction os generalizing r with
  | nil => rfl
  | cons o os ih =>
    rw [notifyAll, List.foldl_cons]
    apply (ih _).trans
    cases o with
    | monitor i => apply platform_observe
    | recorder k => rfl

/-- The answer of a call, and what it makes of the platform, depend on the platform only. -/
theorem platform_call (r : Rig σ) (o : Owner) (x m : Nat) (c : Call) :
  r.platform.callDirectly silent o (r.context x).primitive.base m c
    = ((r.call silent o x m c).1, (r.call silent o x m c).2.platform)
  := by
  have blocks : r.platform.blocks (r.context x).primitive.base m c
      = r.blocks (r.context x).primitive m c := rfl
  have untold (n : Notice) (p : Rig CaseRecord) :
      p.notifyAll silent n m ((r.context x).primitive.base.observers none) = p := rfl
  have reverse (n : Notice) (p : Rig CaseRecord) :
      p.notifyAll silent n m ((r.context x).primitive.base.observers none).reverse = p := rfl
  rw [callDirectly_eq_serve, call_eq_serve, serve.eq_def, serve.eq_def, blocks]
  by_cases waits : r.blocks (r.context x).primitive m c = true
  · simp only [waits]
    rfl
  · simp only [waits, Bool.false_eq_true, ↓reduceIte, untold, reverse]
    cases c with
    | init => simp only [platform_serveBare, platform_notifyAll]
    | free =>
      have served := platform_serveBare (r.notifyAll silent .freeing m
        ((r.context x).primitive.observers (r.context x).hook).reverse) o
        (r.context x).primitive m .free
      rw [platform_notifyAll] at served
      simp only [served]
    | lock => simp only [platform_serveBare, platform_notifyAll]
    | unlock =>
      have served := platform_serveBare (r.notifyAll silent .unlocking m
        ((r.context x).primitive.observers (r.context x).hook).reverse) o
        (r.context x).primitive m .unlock
      rw [platform_notifyAll] at served
      simp only [served]

end Rig

/-! ### Operations, one after another -/

namespace Standing

/-- The violations among operations that come one after another. -/
def faults : Standing → List Operation → List Violation
  | _, [] => []
  | s, op :: ops => violations s.byte op ++ (s.after op).faults ops

theorem run_append (s : Standing) (ops ops' : List Operation) :
  s.run (ops ++ ops') = (s.run ops).run ops'
  := List.foldl_append

theorem faults_append (s : Standing) (ops ops' : List Operation) :
  s.faults (ops ++ ops') = s.faults ops ++ (s.run ops).faults ops'
  := by
  induction ops generalizing s with
  | nil => rfl
  | cons op ops ih =>
    rw [List.cons_append, faults, faults, ih, List.append_assoc]
    rfl

theorem faults_singleton (s : Standing) (op : Operation) :
  s.faults [op] = violations s.byte op
  := List.append_nil _

end Standing

namespace Rig

variable {σ : Type}

/-- From one rig to the next monitor `i` has heard of operations on handle `m`: they took the
byte of the handle and the number of live handles from one standing to the next, and the
violations among them were reported. -/
structure Hears (i m : Nat) (ops : List Operation) (r r' : Rig σ) : Prop where
  context : r'.context = r.context
  byte : (fun n => (r'.handle n).byte)
    = Family.set (fun n => (r.handle n).byte) m ((r.standing i m).run ops).byte
  monitor : r'.monitor i
    = (r.monitor i).adjust fun t => { t with live := ((r.standing i m).run ops).live }
  told : ∃ es, r'.transcript = r.transcript ++ es
    ∧ reported (r.monitor i).sink es = (r.standing i m).faults ops

variable {i m : Nat} {ops ops' : List Operation} {r r' r'' : Rig σ}

namespace Hears

theorem standing (h : Hears i m ops r r') :
  r'.standing i m = (r.standing i m).run ops
  := by
  have byte := congrFun h.byte m
  rw [Family.set_self] at byte
  rw [Rig.standing, byte, h.monitor]
  rfl

theorem sink (h : Hears i m ops r r') :
  (r'.monitor i).sink = (r.monitor i).sink
  := by
  rw [h.monitor]
  rfl

theorem held (h : Hears i m ops r r') :
  (r'.monitor i).tally.held = (r.monitor i).tally.held
  := by
  rw [h.monitor]
  rfl

theorem trans (h : Hears i m ops r r') (h' : Hears i m ops' r' r'') :
  Hears i m (ops ++ ops') r r''
  := by
  constructor
  case context => rw [h'.context, h.context]
  case byte => rw [h'.byte, h.byte, h.standing, Standing.run_append, Family.set_set]
  case monitor =>
    rw [h'.monitor, h.monitor, h.standing, Standing.run_append]
    rfl
  case told =>
    obtain ⟨es, before, found⟩ := h.told
    obtain ⟨es', after, found'⟩ := h'.told
    use es ++ es'
    rw [after, before, List.append_assoc, reported_append, found, ← h.sink, found', h.standing,
      Standing.faults_append]
    exact ⟨rfl, rfl⟩

/-- What changes neither bytes nor contexts nor the monitor, and tells its sink nothing, is
not heard. -/
theorem of_silence {es : List Effect} (context : r'.context = r.context)
    (byte : ∀ n, (r'.handle n).byte = (r.handle n).byte)
    (monitor : r'.monitor i = r.monitor i) (transcript : r'.transcript = r.transcript ++ es)
    (untold : reported (r.monitor i).sink es = []) :
  Hears i m [] r r'
  := by
  constructor
  case context => apply context
  case byte =>
    have same : (r.standing i m).run [] = ⟨(r.handle m).byte, (r.monitor i).tally.value.live⟩ := rfl
    rw [same, funext byte]
    exact (Family.set_get _ m).symm
  case monitor =>
    rw [monitor]
    rfl
  case told => exact ⟨es, transcript, untold⟩

theorem log (e : Event) :
  Hears i m [] r (r.log e)
  := of_silence rfl (fun _ => rfl) rfl rfl rfl

theorem refl :
  Hears i m [] r r
  := of_silence rfl (fun _ => rfl) rfl (List.append_nil _).symm rfl

theorem serveBare (o : Owner) (p : Primitive) (n : Nat) (c : Call) :
  Hears i m [] r (r.serveBare o p n c).2
  := by
  obtain ⟨handle, script, served, byte⟩ := serveBare_eq (r := r) o p n c
  rw [served]
  exact of_silence rfl byte rfl (List.append_nil _).symm rfl

/-- What is not heard changes neither bytes nor the monitor. -/
theorem silence (h : Hears i m [] r r') :
  (∀ n, (r'.handle n).byte = (r.handle n).byte) ∧ r'.monitor i = r.monitor i
  := by
  constructor
  · intro n
    have byte := congrFun h.byte n
    by_cases here : n = m
    · subst here
      simpa [Standing.run, Rig.standing] using byte
    · simpa [here] using byte
  · rw [h.monitor]
    rfl

/-- Holding the guard meanwhile makes no difference to what is not heard. -/
theorem guarded (free : (r.monitor i).tally.held = false) {f : Rig σ → Rig σ}
    (h : Hears i m [] (r.setMonitor i (r.monitor i).hold)
      (f (r.setMonitor i (r.monitor i).hold))) :
  Hears i m [] r (r.guarded i f)
  := by
  have held : (r.setMonitor i (r.monitor i).hold).monitor i = (r.monitor i).hold :=
    Family.set_self _ _ _
  obtain ⟨byte, monitor⟩ := h.silence
  obtain ⟨es, transcript, untold⟩ := h.told
  rw [held] at monitor untold
  apply of_silence
  · apply h.context
  · apply byte
  · rw [Rig.guarded, monitor, Monitor.release_hold free]
    apply Family.set_self
  · apply transcript
  · apply untold

variable [Sink σ]

/-- An observation under a free guard is heard. -/
theorem observe (free : (r.monitor i).tally.held = false) (op : Operation) (m : Nat) :
  Hears i m [op] r (r.observe silent i op m)
  := by
  obtain ⟨sink, observed⟩ := observe_eq free op m
  rw [observed]
  constructor
  case context => rfl
  case byte =>
    exact r.handle.map_set m
      { r.handle m with byte := ((r.standing i m).after op).byte } Handle.byte
  case monitor => exact Family.set_self _ _ _
  case told =>
    use (r.monitor i).findings (r.handle m).byte op, rfl
    rw [Monitor.reported_findings, Standing.faults_singleton]
    rfl

/-- An observation while somebody else holds the guard is not. -/
theorem observe_of_held (held : (r.monitor i).tally.held = true) (op : Operation) :
  Hears i m [] r (r.observe silent i op m)
  := by
  cases attempt : (r.monitor i).attempt with
  | acquired => cases held.symm.trans (Monitor.free_of_attempt attempt)
  | busy =>
    rw [Rig.observe, attempt]
    apply log
  | waiting =>
    rw [Rig.observe, attempt]
    apply refl

end Hears

variable [Sink σ] {x : Nat}

/-- The operation that a call through context `x` amounts to, if it is made. -/
def operation? (x : Nat) (q : Request) (r : Rig σ) : Option Operation :=
  q.operation? (r.call silent q.owner x q.handle q.call).1

/-- The initialisation of a handle is always made. -/
theorem operation?_of_init {q : Request} (init : q.call = .init) :
  r.operation? x q = some .init
  := by
  simp [operation?, call_eq_serve, serve, blocks, init, Request.operation?]

/-- What is heard of every notice is heard of the call, if it is made. -/
theorem hears_of_notify (hear : Operation → List Operation)
    (observers : (r.context x).observers = [.monitor i]) (q : Request)
    (notify : ∀ r' : Rig σ, r'.monitor i = r.monitor i → ∀ n : Notice,
      Hears i q.handle (hear n.operation) r' (r'.notify silent n q.handle (.monitor i))) :
  Hears i q.handle ((r.operation? x q).toList.flatMap hear) r
    (r.call silent q.owner x q.handle q.call).2
  := by
  have sole : (r.context x).primitive.observers (r.context x).hook = [.monitor i] := observers
  obtain ⟨o, m, c⟩ := q
  rw [operation?, call_eq_serve, serve_of_observers sole]
  by_cases waits : r.blocks (r.context x).primitive m c = true
  · simp only [waits, ↓reduceIte]
    cases c with
    | _ => apply Hears.refl
  · simp only [waits, Bool.false_eq_true, ↓reduceIte]
    have same (c : Call) :
        (r.serveBare o (r.context x).primitive m c).2.monitor i = r.monitor i := by
      obtain ⟨handle, script, served, -⟩ := serveBare_eq (r := r) o (r.context x).primitive m c
      rw [served]
    cases c with
    | init =>
      have told := notify _ (same .init) .initialised
      simpa [Request.operation?, Notice.operation] using (Hears.serveBare ..).trans told
    | free =>
      have told := notify r rfl .freeing
      simpa [Request.operation?, Notice.operation] using told.trans (Hears.serveBare ..)
    | lock =>
      have told := notify _ (same .lock) (.locked (r.serveBare o (r.context x).primitive m .lock).1)
      simpa [Request.operation?, Notice.operation] using (Hears.serveBare ..).trans told
    | unlock =>
      have told := notify r rfl .unlocking
      simpa [Request.operation?, Notice.operation] using told.trans (Hears.serveBare ..)

/-- A call through a watched context is heard. -/
theorem hears_call (watched : r.Watched i x) (q : Request) :
  Hears i q.handle (r.operation? x q).toList r (r.call silent q.owner x q.handle q.call).2
  := by
  have heard := hears_of_notify (i := i) (fun op => [op]) watched.observers q
    fun r' same n =>
      Hears.observe (by rw [same, watched.free]) n.operation q.handle
  simpa using heard

/-- While somebody else holds the guard it is not. -/
theorem hears_guarded_call (watched : r.Watched i x) (q : Request) :
  Hears i q.handle [] r
    (r.guarded i fun r => (r.call silent q.owner x q.handle q.call).2)
  := by
  apply Hears.guarded watched.free
  have heard := hears_of_notify (r := r.setMonitor i (r.monitor i).hold) (i := i) (fun _ => [])
    watched.observers q fun r' same n =>
      Hears.observe_of_held (by simp [same, setMonitor, Monitor.hold, Guard.hold]) n.operation
  rw [List.flatMap_eq_nil_iff.mpr fun _ _ => rfl] at heard
  apply heard

end Rig

end LockDiscipline
