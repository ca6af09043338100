import LockDiscipline.Proofs.Coupling
import LockDiscipline.Proofs.Transparency

/-!
# Re-entrance while a guard is held

Sinks are called while the guard of a monitor is held.  A sink that uses the library meanwhile
finds the monitor busy, and a touch that uses busy monitors only is barred (`Touch.Barred`): the
bare primitive is called once and answers, every observation and every check is given up and leaves
one event for debugging, and that is all (`Rig.performAll_of_barred`).

So bytes, monitors and sinks are as they were.  Since observations and checks call sinks only
while a guard is held, they end as if the sinks had not used the library, and so do mutex calls;
but platform locks and scripts, which no monitor has any influence on, may be others.  The two
parts make up `Rig.reentrance_inert`.
-/

namespace LockDiscipline

open Discipline (Request)

variable {σ : Type}

/-- What becomes visible of touches that sinks make, and of what is skipped. -/
def Effect.aside : Effect → Bool
  | .nested _ _ | .logged (.observationSkipped _) | .logged .checkSkipped => true
  | _ => false

namespace Rig

/-- The rig with more visible effects. -/
def emitAll (es : List Effect) (r : Rig σ) : Rig σ := { r with transcript := r.transcript ++ es }

theorem emitAll_nil (r : Rig σ) :
  r.emitAll [] = r
  := by rw [emitAll, List.append_nil]

theorem emitAll_append (r : Rig σ) (es es' : List Effect) :
  r.emitAll (es ++ es') = (r.emitAll es).emitAll es'
  := by simp [emitAll]

/-- The guard of monitor `i` is held, and callers who find it so give up. -/
structure Busy (i : Nat) (r : Rig σ) : Prop where
  held : (r.monitor i).tally.held = true
  skips : (r.monitor i).settings.guardPolicy = .skipWhenBusy

theorem Busy.attempt {i : Nat} {r : Rig σ} (busy : r.Busy i) :
  (r.monitor i).attempt = .busy
  := by simp [Monitor.attempt, Guard.attempt, busy.held, busy.skips]

/-! ### What does not move -/

/-- Two rigs differ at most in what bare primitives change, and in what became visible of touches
that sinks make and of what was skipped. -/
structure Unmoved (r r' : Rig σ) : Prop where
  context : r'.context = r.context
  primitives : r'.primitives = r.primitives
  monitor : r'.monitor = r.monitor
  sink : r'.sink = r.sink
  byte : ∀ m, (r'.handle m).byte = (r.handle m).byte
  visible : r'.transcript.filter (!·.aside) = r.transcript.filter (!·.aside)

namespace Unmoved

variable {r r' r'' : Rig σ}

theorem refl (r : Rig σ) :
  Unmoved r r
  := ⟨rfl, rfl, rfl, rfl, fun _ => rfl, rfl⟩

theorem symm (h : Unmoved r r') :
  Unmoved r' r
  := ⟨h.context.symm, h.primitives.symm, h.monitor.symm, h.sink.symm, fun m => (h.byte m).symm,
    h.visible.symm⟩

theorem trans (h : Unmoved r r') (h' : Unmoved r' r'') :
  Unmoved r r''
  := ⟨h'.context.trans h.context, h'.primitives.trans h.primitives, h'.monitor.trans h.monitor,
    h'.sink.trans h.sink, fun m => (h'.byte m).trans (h.byte m), h'.visible.trans h.visible⟩

theorem emitAll {es : List Effect} (aside : ∀ e ∈ es, e.aside) :
  Unmoved r (r.emitAll es)
  := by
  refine ⟨rfl, rfl, rfl, rfl, fun _ => rfl, ?_⟩
  have nothing : es.filter (!·.aside) = [] := by
    rw [List.filter_eq_nil_iff]
    intro e mem
    simp [aside e mem]
  rw [Rig.emitAll, List.filter_append, nothing, List.append_nil]

/-- Bare primitives do not move anything. -/
theorem serveBare (r : Rig σ) (o : Owner) (p : Primitive) (m : Nat) (c : Call) :
  Unmoved r (r.serveBare o p m c).2
  := by
  obtain ⟨handle, script, served, byte⟩ := serveBare_eq (r := r) o p m c
  rw [served]
  exact ⟨rfl, rfl, rfl, rfl, byte, rfl⟩

theorem busy (h : Unmoved r r') {i : Nat} (busy : r.Busy i) :
  r'.Busy i
  := ⟨by rw [h.monitor, busy.held], by rw [h.monitor, busy.skips]⟩

end Unmoved

end Rig

/-! ### Touches that are given up -/

namespace Touch

/-- Whom a touch tells of a call, or asks for a check. -/
def uses (r : Rig σ) : Touch → List Observer
  | .call _ x _ _ => (r.context x).observers
  | .callDirectly _ n _ _ => (r.primitive n).observers none
  | .notice i _ _ | .check i => [.monitor i]

/-- Whom a touch uses depends on contexts and primitives. -/
theorem uses_congr {r r' : Rig σ} (context : r'.context = r.context)
    (primitives : r'.primitives = r.primitives) (t : Touch) :
  t.uses r' = t.uses r
  := by
  cases t with
  | call o x m c => rw [uses, uses, context]
  | callDirectly o n m c => rw [uses, uses, Rig.primitive, Rig.primitive, primitives]
  | notice i m n => rfl
  | check i => rfl

/-- All that a touch uses are busy monitors. -/
def Barred (r : Rig σ) (t : Touch) : Prop := ∀ a ∈ t.uses r, ∃ i, a = .monitor i ∧ r.Busy i

/-- The operation that a touch amounts to when it is answered. -/
def operation? : Touch → Reply → Option Operation
  | .call o _ m c, a | .callDirectly o _ m c, a => Request.operation? ⟨o, m, c⟩ a
  | .notice _ _ n, _ => some n.operation
  | .check _, _ => none

/-- What a touch leaves that everybody gives up who is used: an event for each observation, and
one for a check. -/
def skips (r : Rig σ) (t : Touch) (a : Reply) : List Effect :=
  match t with
  | .check _ => [.logged .checkSkipped]
  | t => (t.operation? a).toList.flatMap fun op =>
    List.replicate (t.uses r).length (.logged (.observationSkipped op))

/-- What touches leave that everybody gives up. -/
def skipsAll (r : Rig σ) (ts : List Touch) (as : List Reply) : List Effect :=
  (ts.zip as).flatMap fun p => p.1.skips r p.2

/-- The calls that script `n` serves for a touch when it is answered. -/
def served (n : Nat) (r : Rig σ) : Touch → Reply → List ServedCall
  | .call _ x _ c, a =>
    if (r.context x).primitive.base = .bare n .scripted then (c.served? a).toList else []
  | .callDirectly _ k _ c, a =>
    if (r.primitive k).base = .bare n .scripted then (c.served? a).toList else []
  | .notice _ _ _, _ | .check _, _ => []

variable [Sink σ]

/-- Makes a touch that nobody hears of: the bare primitive is called, and nothing else happens. -/
def unheard (t : Touch) (r : Rig σ) : Reply × Rig σ :=
  match t with
  | .call o x m c => r.callDirectly silent o (r.context x).primitive.base m c
  | .callDirectly o n m c => r.callDirectly silent o (r.primitive n).base m c
  | .notice _ _ _ => (.done, r)
  | .check _ => (.pending none, r)

/-- Makes touches that nobody hears of, one after another. -/
def unheardAll (r : Rig σ) : List Touch → List Reply × Rig σ
  | [] => ([], r)
  | t :: ts =>
    let (a, r) := t.unheard r
    let (as, r) := unheardAll r ts
    (a :: as, r)

end Touch

namespace Rig

variable [Sink σ] {r r' : Rig σ} {R : Responder σ}

/-! ### One touch -/

/-- Every busy monitor that is told leaves one event. -/
theorem notifyAll_of_busy {os : List Observer} (busy : ∀ a ∈ os, ∃ i, a = .monitor i ∧ r.Busy i)
    (n : Notice) (m : Nat) :
  r.notifyAll R n m os
    = r.emitAll (List.replicate os.length (.logged (.observationSkipped n.operation)))
  := by
  induction os generalizing r with
  | nil => exact (emitAll_nil r).symm
  | cons a os ih =>
    obtain ⟨i, rfl, own⟩ := busy a List.mem_cons_self
    have skipped : r.notify R n m (.monitor i) = r.log (.observationSkipped n.operation) := by
      rw [notify, observe, own.attempt]
    have later : ∀ a ∈ os, ∃ i, a = .monitor i
        ∧ (r.log (.observationSkipped n.operation)).Busy i := by
      intro a mem
      obtain ⟨j, rfl, other⟩ := busy a (List.mem_cons_of_mem _ mem)
      exact ⟨j, rfl, other.held, other.skips⟩
    have rest := ih later
    rw [notifyAll] at rest ⊢
    rw [List.foldl_cons, skipped, rest, log, emit, emitAll, emitAll, List.append_assoc]
    rfl

omit [Sink σ] in
theorem serveBare_emitAll (r : Rig σ) (es : List Effect) (o : Owner) (p : Primitive) (m : Nat)
    (c : Call) :
  (r.emitAll es).serveBare o p m c
    = ((r.serveBare o p m c).1, (r.serveBare o p m c).2.emitAll es)
  := by
  rw [serveBare.eq_def, serveBare.eq_def]
  cases p.kind with
  | scripted => rfl
  | native => cases c <;> rfl

theorem callDirectly_base_emitAll (r : Rig σ) (es : List Effect) (o : Owner) (p : Primitive)
    (m : Nat) (c : Call) :
  (r.emitAll es).callDirectly silent o p.base m c
    = ((r.callDirectly silent o p.base m c).1, (r.callDirectly silent o p.base m c).2.emitAll es)
  := by
  have blocks : (r.emitAll es).blocks p.base m c = r.blocks p.base m c := rfl
  rw [callDirectly_base, callDirectly_base, blocks]
  split
  · rfl
  · rw [serveBare_emitAll]

/-- A call that only busy monitors are told of reaches the bare primitive, and leaves one event
for each of them. -/
theorem serve_of_busy {p : Primitive} {hook : Option Observer}
    (busy : ∀ a ∈ p.observers hook, ∃ i, a = .monitor i ∧ r.Busy i) (o : Owner) (m : Nat)
    (c : Call) :
  let made := r.callDirectly silent o p.base m c
  r.serve R o p hook m c
    = (made.1, made.2.emitAll ((Request.operation? ⟨o, m, c⟩ made.1).toList.flatMap fun op =>
      List.replicate (p.observers hook).length (.logged (.observationSkipped op))))
  := by
  intro made
  -- What is given up depends on no handle and changes none, so it does not matter whether the
  -- bare primitive does its work before or after.
  have base (q : Rig σ) (c : Call) : q.serveBare o p.base m c = q.serveBare o p m c :=
    serveBare_congr rfl rfl o m c
  have blocks : r.blocks p.base m c = r.blocks p m c := rfl
  have outwards (c : Call) (n : Notice) :
      (r.serveBare o p m c).2.notifyAll R n m (p.observers hook)
        = (r.serveBare o p m c).2.emitAll (List.replicate (p.observers hook).length
          (.logged (.observationSkipped n.operation))) := by
    apply notifyAll_of_busy
    intro a mem
    obtain ⟨i, same, own⟩ := busy a mem
    exact ⟨i, same, (Unmoved.serveBare r o p m c).busy own⟩
  have inwards (n : Notice) : r.notifyAll R n m (p.observers hook).reverse
      = r.emitAll (List.replicate (p.observers hook).length
        (.logged (.observationSkipped n.operation))) := by
    rw [← List.length_reverse]
    exact notifyAll_of_busy (fun a mem => busy a (List.mem_reverse.mp mem)) n m
  simp only [made, callDirectly_base, base, blocks]
  rw [serve.eq_def]
  by_cases waits : r.blocks p m c = true
  · simp only [waits, ↓reduceIte]
    cases c with
    | _ => simp [Request.operation?, emitAll_nil]
  · simp only [waits, Bool.false_eq_true, ↓reduceIte]
    cases c with
    | init => simp [outwards, Request.operation?, Call.reply, Notice.operation]
    | free => simp [inwards, serveBare_emitAll, Request.operation?, Call.reply, Notice.operation]
    | lock => simp [outwards, Request.operation?, Call.reply, Notice.operation]
    | unlock => simp [inwards, serveBare_emitAll, Request.operation?, Call.reply, Notice.operation]

/-- A barred touch comes to the same as if nobody heard of it, but for the events that it
leaves. -/
theorem perform_of_barred {t : Touch} (barred : t.Barred r) :
  t.perform R r = ((t.unheard r).1, (t.unheard r).2.emitAll (t.skips r (t.unheard r).1))
  := by
  have single {i : Nat} (own : ∃ j, Observer.monitor i = .monitor j ∧ r.Busy j) :
      (r.monitor i).attempt = .busy := by
    obtain ⟨j, same, busy⟩ := own
    cases same
    exact busy.attempt
  cases t with
  | call o x m c =>
    rw [Touch.perform, call_eq_serve]
    exact serve_of_busy barred o m c
  | callDirectly o n m c =>
    rw [Touch.perform, callDirectly_eq_serve]
    exact serve_of_busy barred o m c
  | notice i m n =>
    rw [Touch.perform, observe, single (barred _ List.mem_cons_self)]
    rfl
  | check i =>
    rw [Touch.perform, check, single (barred _ List.mem_cons_self)]
    rfl

/-- A touch that nobody hears of changes what bare primitives change. -/
theorem unheard_eq (r : Rig σ) (t : Touch) :
  ∃ handle script, (t.unheard r).2 = { r with handle := handle, script := script }
    ∧ ∀ m, (handle m).byte = (r.handle m).byte
  := by
  have direct (o : Owner) (p : Primitive) (m : Nat) (c : Call) :
      ∃ handle script,
        (r.callDirectly silent o p.base m c).2 = { r with handle := handle, script := script }
          ∧ ∀ m, (handle m).byte = (r.handle m).byte := by
    rw [callDirectly_base]
    split
    · exact ⟨_, _, rfl, fun _ => rfl⟩
    · exact serveBare_eq o p.base m c
  cases t with
  | call o x m c => exact direct o _ m c
  | callDirectly o n m c => exact direct o _ m c
  | notice i m n => exact ⟨_, _, rfl, fun _ => rfl⟩
  | check i => exact ⟨_, _, rfl, fun _ => rfl⟩

theorem unmoved_unheard (r : Rig σ) (t : Touch) :
  Unmoved r (t.unheard r).2
  := by
  obtain ⟨handle, script, made, byte⟩ := unheard_eq r t
  rw [made]
  exact ⟨rfl, rfl, rfl, rfl, byte, rfl⟩

omit [Sink σ] in
theorem mem_skips {t : Touch} {a : Reply} {e : Effect} (mem : e ∈ t.skips r a) :
  e = .logged .checkSkipped ∨ ∃ op, e = .logged (.observationSkipped op)
  := by
  cases t with
  | check i => exact .inl (List.mem_singleton.mp mem)
  | call o x m c | callDirectly o n m c | notice i m n =>
    obtain ⟨op, -, skipped⟩ := List.mem_flatMap.mp mem
    exact .inr ⟨op, List.eq_of_mem_replicate skipped⟩

omit [Sink σ] in
/-- All that is left is for debugging. -/
theorem level_of_mem_skipsAll {ts : List Touch} {as : List Reply} {e : Effect}
    (mem : e ∈ Touch.skipsAll r ts as) :
  ∃ n, e = .logged n ∧ n.level = .debug
  := by
  obtain ⟨p, -, skipped⟩ := List.mem_flatMap.mp mem
  obtain rfl | ⟨op, rfl⟩ := mem_skips skipped
  · exact ⟨_, rfl, rfl⟩
  · exact ⟨_, rfl, rfl⟩

/-- A barred touch moves nothing. -/
theorem unmoved_of_barred {t : Touch} (barred : t.Barred r) :
  Unmoved r (t.perform R r).2
  := by
  rw [perform_of_barred barred]
  apply (unmoved_unheard r t).trans
  apply Unmoved.emitAll
  intro e mem
  obtain rfl | ⟨op, rfl⟩ := mem_skips mem
  · rfl
  · rfl

/-- The script of the bare primitive notes a touch that nobody hears of. -/
theorem calls_unheard (r : Rig σ) (t : Touch) (n : Nat) :
  ((t.unheard r).2.script n).calls = (r.script n).calls ++ t.served n r (t.unheard r).1
  := by
  cases t with
  | call o x m c => exact calls_callDirectly_base silent o _ m n c
  | callDirectly o k m c => exact calls_callDirectly_base silent o _ m n c
  | notice i m a => exact (List.append_nil _).symm
  | check i => exact (List.append_nil _).symm

/-! ### Any number of touches -/

omit [Sink σ] in
theorem Unmoved.uses (h : Unmoved r r') (t : Touch) :
  t.uses r' = t.uses r
  := Touch.uses_congr h.context h.primitives t

omit [Sink σ] in
theorem Unmoved.barred (h : Unmoved r r') {t : Touch} (barred : t.Barred r) :
  t.Barred r'
  := by
  intro a mem
  rw [h.uses] at mem
  obtain ⟨i, same, busy⟩ := barred a mem
  exact ⟨i, same, h.busy busy⟩

omit [Sink σ] in
theorem Unmoved.skips (h : Unmoved r r') (t : Touch) (a : Reply) :
  t.skips r' a = t.skips r a
  := by
  cases t with
  | check i => rfl
  | call o x m c | callDirectly o n m c | notice i m n =>
    simp only [Touch.skips, h.uses]

omit [Sink σ] in
theorem Unmoved.skipsAll (h : Unmoved r r') (ts : List Touch) (as : List Reply) :
  Touch.skipsAll r' ts as = Touch.skipsAll r ts as
  := by simp only [Touch.skipsAll, h.skips]

omit [Sink σ] in
theorem Unmoved.served (h : Unmoved r r') (n : Nat) (t : Touch) (a : Reply) :
  t.served n r' a = t.served n r a
  := by
  cases t with
  | call o x m c => rw [Touch.served, Touch.served, h.context]
  | callDirectly o k m c => rw [Touch.served, Touch.served, primitive, primitive, h.primitives]
  | notice i m n => rfl
  | check i => rfl

theorem unheard_emitAll (r : Rig σ) (es : List Effect) (t : Touch) :
  t.unheard (r.emitAll es) = ((t.unheard r).1, (t.unheard r).2.emitAll es)
  := by
  cases t with
  | call o x m c => exact callDirectly_base_emitAll r es o _ m c
  | callDirectly o n m c => exact callDirectly_base_emitAll r es o _ m c
  | notice i m n => rfl
  | check i => rfl

theorem unheardAll_emitAll (r : Rig σ) (es : List Effect) (ts : List Touch) :
  Touch.unheardAll (r.emitAll es) ts
    = ((Touch.unheardAll r ts).1, (Touch.unheardAll r ts).2.emitAll es)
  := by
  induction ts generalizing r with
  | nil => rfl
  | cons t ts ih => simp only [Touch.unheardAll, unheard_emitAll, ih]

/-- Any number of barred touches come to the same as if nobody heard of them, but for the events
that they leave. -/
theorem performAll_of_barred {ts : List Touch} (barred : ∀ t ∈ ts, t.Barred r) :
  Touch.performAll R r ts
    = ((Touch.unheardAll r ts).1,
      (Touch.unheardAll r ts).2.emitAll (Touch.skipsAll r ts (Touch.unheardAll r ts).1))
  := by
  induction ts generalizing r with
  | nil => exact congrArg (Prod.mk _) (emitAll_nil r).symm
  | cons t ts ih =>
    have made := perform_of_barred (R := R) (barred t List.mem_cons_self)
    have moved := unmoved_of_barred (R := R) (barred t List.mem_cons_self)
    have rest := ih fun t mem => moved.barred (barred t (List.mem_cons_of_mem _ mem))
    rw [moved.skipsAll, made, unheardAll_emitAll] at rest
    simp only [Touch.performAll, made, rest, Touch.unheardAll, Touch.skipsAll, List.zip_cons_cons,
      List.flatMap_cons]
    rw [← emitAll_append]

/-- They move nothing. -/
theorem unmoved_performAll {ts : List Touch} (barred : ∀ t ∈ ts, t.Barred r) :
  Unmoved r (Touch.performAll R r ts).2
  := by
  induction ts generalizing r with
  | nil => exact .refl r
  | cons t ts ih =>
    have moved := unmoved_of_barred (R := R) (barred t List.mem_cons_self)
    exact moved.trans (ih fun t mem => moved.barred (barred t (List.mem_cons_of_mem _ mem)))

/-- Each of them is served once, in the order in which they are made. -/
theorem calls_unheardAll (r : Rig σ) (ts : List Touch) (n : Nat) :
  ((Touch.unheardAll r ts).2.script n).calls = (r.script n).calls
    ++ (ts.zip (Touch.unheardAll r ts).1).flatMap fun p => p.1.served n r p.2
  := by
  induction ts generalizing r with
  | nil => exact (List.append_nil _).symm
  | cons t ts ih =>
    have rest := ih (t.unheard r).2
    rw [calls_unheard, List.append_assoc] at rest
    simp only [(unmoved_unheard r t).served] at rest
    exact rest

/-- Nothing becomes visible of them. -/
theorem transcript_unheardAll (r : Rig σ) (ts : List Touch) :
  (Touch.unheardAll r ts).2.transcript = r.transcript
  := by
  induction ts generalizing r with
  | nil => rfl
  | cons t ts ih =>
    have single : (t.unheard r).2.transcript = r.transcript := by
      obtain ⟨handle, script, made, -⟩ := unheard_eq r t
      rw [made]
    exact (ih _).trans single

/-- No check of them finds a violation. -/
theorem pending_unheardAll (r : Rig σ) {ts : List Touch} {i : Nat} {a : Reply}
    (mem : (.check i, a) ∈ ts.zip (Touch.unheardAll r ts).1) :
  a = .pending none
  := by
  induction ts generalizing r with
  | nil => cases mem
  | cons t ts ih =>
    obtain first | later := List.mem_cons.mp mem
    · obtain ⟨rfl, rfl⟩ := Prod.mk.inj first
      rfl
    · exact ih _ later

end Rig

/-! ### Sinks that make barred touches -/

/-- From `r`, calls and checks lead to rigs in which monitors have counted otherwise, and perhaps
hold their guards. -/
structure Rig.Amid (r q : Rig σ) : Prop where
  context : q.context = r.context
  primitives : q.primitives = r.primitives
  monitor : ∀ i, ∃ t, q.monitor i = { r.monitor i with tally := t }

/-- All that sinks do while they are called under a guard is to make touches that are barred. -/
def Responder.Reentrant [Sink σ] (R : Responder σ) (r : Rig σ) : Prop :=
  ∀ q, r.Amid q → ∀ i s, q.ReportsTo i s → ∀ c, ∃ (R' : Responder σ) (ts : List Touch),
    (∀ t ∈ ts, t.Barred q) ∧ R s c q = Touch.nestAll R' s q ts

namespace Rig

section

variable {r q q' : Rig σ} {i : Nat}

theorem Amid.refl (r : Rig σ) :
  r.Amid r
  := ⟨rfl, rfl, fun i => ⟨(r.monitor i).tally, rfl⟩⟩

theorem Amid.of_eq (h : r.Amid q) (context : q'.context = q.context)
    (primitives : q'.primitives = q.primitives) (monitor : q'.monitor = q.monitor) :
  r.Amid q'
  := ⟨context.trans h.context, primitives.trans h.primitives, monitor ▸ h.monitor⟩

theorem Amid.change (h : r.Amid q) (i : Nat) (c : Monitor.Change) :
  r.Amid (q.setMonitor i (c.apply (q.monitor i)))
  := by
  refine ⟨h.context, h.primitives, fun j => ?_⟩
  by_cases here : j = i
  · subst here
    have changed : (q.setMonitor j (c.apply (q.monitor j))).monitor j = c.apply (q.monitor j) :=
      Family.set_self _ _ _
    obtain ⟨t, same⟩ := h.monitor j
    rw [changed, same]
    cases c with
    | _ => exact ⟨_, rfl⟩
  · have other : (q.setMonitor i (c.apply (q.monitor i))).monitor j = q.monitor j :=
      Family.set_of_ne _ _ here
    rw [other]
    exact h.monitor j

end

variable [Sink σ] {R : Responder σ} {r q q' : Rig σ}

/-- The touches of a sink move nothing. -/
theorem unmoved_nestAll (R' : Responder σ) (s : Nat) {ts : List Touch}
    (barred : ∀ t ∈ ts, t.Barred r) :
  Unmoved r (Touch.nestAll R' s r ts)
  := by
  induction ts generalizing r with
  | nil => exact .refl r
  | cons t ts ih =>
    have moved : Unmoved r ((t.perform R' r).2.emit (.nested s (t.perform R' r).1)) :=
      (unmoved_of_barred (barred t List.mem_cons_self)).trans (.emitAll (by simp [Effect.aside]))
    exact moved.trans (ih fun t mem => moved.barred (barred t (List.mem_cons_of_mem _ mem)))

/-- A rig of a run whose sinks use the library meanwhile, and one of a run whose sinks do not. -/
structure Undisturbed (r q q' : Rig σ) : Prop where
  amid : r.Amid q
  unmoved : q.Unmoved q'

namespace Undisturbed

omit [Sink σ] in
theorem emit (h : Undisturbed r q q') (e : Effect) :
  Undisturbed r (q.emit e) (q'.emit e)
  := by
  refine ⟨h.amid.of_eq rfl rfl rfl, { h.unmoved with visible := ?_ }⟩
  rw [Rig.emit, Rig.emit, List.filter_append, List.filter_append, h.unmoved.visible]

/-- A sink that makes barred touches comes to the same as one that makes none. -/
theorem tell (reentrant : R.Reentrant r) (h : Undisturbed r q q') {i s : Nat}
    (reports : q.ReportsTo i s) (c : SinkCall) :
  Undisturbed r (q.tell R s c) (q'.tell silent s c) ∧ (q.tell R s c).ReportsTo i s
  := by
  have received : Undisturbed r (q.setSink s (Sink.receive (q.sink s) c))
      (q'.setSink s (Sink.receive (q'.sink s) c)) := by
    rw [h.unmoved.sink]
    refine ⟨h.amid.of_eq rfl rfl rfl, { h.unmoved with sink := ?_ }⟩
    rw [setSink, setSink, h.unmoved.sink]
  have told := received.emit (.told s c)
  obtain ⟨R', ts, barred, nested⟩ := reentrant _ told.amid i s ⟨reports.held, reports.sink⟩ c
  have moved := unmoved_nestAll R' s barred
  rw [← nested] at moved
  refine ⟨⟨told.amid.of_eq moved.context moved.primitives moved.monitor,
    moved.symm.trans told.unmoved⟩, ?_⟩
  have monitor : (q.tell R s c).monitor i = q.monitor i := congrFun moved.monitor i
  exact ⟨by rw [monitor, reports.held], by rw [monitor, reports.sink]⟩

/-- Sinks that make barred touches do not disturb observations and checks. -/
theorem coupling (reentrant : R.Reentrant r) :
  Coupling .all R silent (Undisturbed r)
  := by
  constructor
  case byte => exact fun h m _ => h.unmoved.byte m
  case like =>
    intro q q' h i _
    rw [h.unmoved.monitor]
    apply Monitor.Like.refl
  case mark =>
    intro q q' h m _ s
    refine ⟨h.amid.of_eq rfl rfl rfl, { h.unmoved with byte := fun n => ?_ }⟩
    by_cases here : n = m
    · subst here
      simp [setHandle, Handle.mark]
    · simpa [setHandle, here] using h.unmoved.byte n
  case change =>
    intro q q' h i _ c
    rw [h.unmoved.monitor]
    refine ⟨h.amid.change i c, { h.unmoved with monitor := ?_ }⟩
    rw [setMonitor, setMonitor, h.unmoved.monitor]
  case emit => exact fun h e _ => h.emit e
  case tell => exact fun h i s _ reports c => h.tell reentrant reports c
  case plead =>
    intro q q' h i s mem reports
    refine Coupling.plead_of_alike ?_ ?_ h mem reports
    · exact fun h i s _ reports c => h.tell reentrant reports c
    · intro q q' h i s _ _
      rw [h.unmoved.sink]
      exact ⟨rfl, rfl⟩

omit [Sink σ] in
/-- A bare primitive disturbs nothing. -/
theorem serveBare (h : Undisturbed r q q') (o : Owner) (p : Primitive) (m : Nat) (c : Call) :
  Undisturbed r (q.serveBare o p m c).2 (q'.serveBare o p m c).2
  := by
  have moved := Unmoved.serveBare q o p m c
  refine ⟨h.amid.of_eq moved.context moved.primitives moved.monitor, ?_⟩
  exact (moved.symm.trans h.unmoved).trans (.serveBare q' o p m c)

end Undisturbed

/-- A call comes to the same, but for platforms.  So does its answer, unless it is that of an
unlock, which bare primitives answer after observers were told. -/
theorem undisturbed_serve (reentrant : R.Reentrant r) (o : Owner) (p : Primitive)
    (hook : Option Observer) (m : Nat) (c : Call) :
  Undisturbed r (r.serve R o p hook m c).2 (r.serve silent o p hook m c).2
    ∧ (c ≠ .unlock → (r.serve R o p hook m c).1 = (r.serve silent o p hook m c).1)
  := by
  -- The bare primitive begins where the platforms may be two already, if observers were told
  -- first; so its work is related to that of any other rig that has not moved.
  have start : Undisturbed r r r := ⟨.refl r, .refl r⟩
  have told {q q' : Rig σ} (h : Undisturbed r q q') (n : Notice) (os : List Observer) :
      Undisturbed r (q.notifyAll R n m os) (q'.notifyAll silent n m os) :=
    (Undisturbed.coupling reentrant).notifyAll h n trivial fun _ _ => trivial
  rw [serve.eq_def, serve.eq_def]
  by_cases waits : r.blocks p m c = true
  · simp only [waits]
    exact ⟨start, fun _ => rfl⟩
  · simp only [waits]
    cases c with
    | init => exact ⟨told (start.serveBare o p m .init) _ _, fun _ => rfl⟩
    | free => exact ⟨(told start _ _).serveBare o p m .free, fun _ => rfl⟩
    | lock => exact ⟨told (start.serveBare o p m .lock) _ _, fun _ => rfl⟩
    | unlock => exact ⟨(told start _ _).serveBare o p m .unlock, fun other => absurd rfl other⟩

theorem undisturbed_check (reentrant : R.Reentrant r) (i : Nat) :
  Undisturbed r (r.check R i).2 (r.check silent i).2 ∧ (r.check R i).1 = (r.check silent i).1
  := by
  have start : Undisturbed r r r := ⟨.refl r, .refl r⟩
  have coupling := Undisturbed.coupling reentrant
  refine ⟨coupling.check start trivial, ?_⟩
  rw [check, check]
  cases (r.monitor i).attempt with
  | acquired =>
    obtain ⟨settled, -⟩ := coupling.settle (coupling.change start i trivial .hold) trivial
      (reports_hold r i)
    simp only [closeCase_eq_plead]
    have sinks := settled.unmoved.sink
    simp only [Monitor.Change.apply] at sinks
    rw [sinks]
  | busy => rfl
  | waiting => rfl

/-- Every touch comes to the same. -/
theorem undisturbed_perform (reentrant : R.Reentrant r) (t : Touch) :
  Undisturbed r (t.perform R r).2 (t.perform silent r).2
    ∧ ((∀ o x m, t ≠ .call o x m .unlock) → (∀ o n m, t ≠ .callDirectly o n m .unlock) →
      (t.perform R r).1 = (t.perform silent r).1)
  := by
  cases t with
  | call o x m c =>
    rw [Touch.perform, Touch.perform, call_eq_serve, call_eq_serve]
    obtain ⟨undisturbed, answer⟩ := undisturbed_serve reentrant o (r.context x).primitive
      (r.context x).hook m c
    refine ⟨undisturbed, fun other _ => answer ?_⟩
    rintro rfl
    exact other o x m rfl
  | callDirectly o n m c =>
    rw [Touch.perform, Touch.perform, callDirectly_eq_serve, callDirectly_eq_serve]
    obtain ⟨undisturbed, answer⟩ := undisturbed_serve reentrant o (r.primitive n) none m c
    refine ⟨undisturbed, fun _ other => answer ?_⟩
    rintro rfl
    exact other o n m rfl
  | notice i m n =>
    have start : Undisturbed r r r := ⟨.refl r, .refl r⟩
    exact ⟨(Undisturbed.coupling reentrant).observe start trivial n.operation trivial,
      fun _ _ => rfl⟩
  | check i =>
    obtain ⟨undisturbed, answer⟩ := undisturbed_check reentrant i
    exact ⟨undisturbed, fun _ _ => congrArg Reply.pending answer⟩

/-- What is done from inside a call of a sink is inert.

Touches that use busy monitors only come to what bare primitives make of them: each call is served
once, and is answered as the bare primitive answers; bytes, monitors and sinks stay as they are,
every check answers that no violation is pending, and all that becomes visible is that
observations and checks were skipped.

So a touch during which sinks make such touches leaves bytes, monitors and sinks as it does when
sinks make none.  The same becomes visible but for the touches that sinks make, and it is answered
alike, unless bare primitives do their work after the observers were told. -/
theorem reentrance_inert :
  (∀ (R : Responder σ) (r : Rig σ) (ts : List Touch), (∀ t ∈ ts, t.Barred r) →
      let run := Touch.performAll R r ts
      let made := Touch.unheardAll r ts
      run = (made.1, made.2.emitAll (Touch.skipsAll r ts made.1))
        ∧ run.2.transcript = r.transcript ++ Touch.skipsAll r ts run.1
        ∧ (∀ e ∈ Touch.skipsAll r ts run.1, ∃ n, e = .logged n ∧ n.level = .debug)
        ∧ run.2.monitor = r.monitor ∧ run.2.sink = r.sink
        ∧ (∀ m, (run.2.handle m).byte = (r.handle m).byte)
        ∧ (∀ n, (run.2.script n).calls
          = (r.script n).calls ++ (ts.zip run.1).flatMap fun p => p.1.served n r p.2)
        ∧ ∀ i a, (.check i, a) ∈ ts.zip run.1 → a = .pending none)
    ∧ ∀ (R : Responder σ) (r : Rig σ), R.Reentrant r → ∀ t : Touch,
      let run := t.perform R r
      let plain := t.perform silent r
      run.2.monitor = plain.2.monitor ∧ run.2.sink = plain.2.sink
        ∧ (∀ m, (run.2.handle m).byte = (plain.2.handle m).byte)
        ∧ run.2.transcript.filter (!·.aside) = plain.2.transcript.filter (!·.aside)
        ∧ ((∀ o x m, t ≠ .call o x m .unlock) → (∀ o n m, t ≠ .callDirectly o n m .unlock) →
          run.1 = plain.1)
  := by
  constructor
  · intro R r ts barred run made
    have came : run = (made.1, made.2.emitAll (Touch.skipsAll r ts made.1)) :=
      performAll_of_barred barred
    obtain ⟨-, -, monitor, sink, byte, -⟩ := unmoved_performAll (R := R) barred
    refine ⟨came, ?_, fun _ => level_of_mem_skipsAll, monitor, sink, byte, ?_, ?_⟩
    · rw [came, emitAll, transcript_unheardAll]
    · rw [came]
      exact calls_unheardAll r ts
    · intro i a mem
      rw [came] at mem
      exact pending_unheardAll r mem
  · intro R r reentrant t run plain
    obtain ⟨⟨-, moved⟩, answer⟩ := undisturbed_perform reentrant t
    exact ⟨moved.monitor.symm, moved.sink.symm, fun m => (moved.byte m).symm, moved.visible.symm,
      answer⟩

/-- Probes make barred touches if, for every monitor that reports to them, their touches use that
monitor only, and its callers do not wait. -/
theorem reentrant_probed {probe : Family Probe} (own : ∀ s k, ∀ t ∈ probe s k, ∀ a ∈ t.uses r,
      ∀ i, (r.monitor i).sink = s →
        a = .monitor i ∧ (r.monitor i).settings.guardPolicy = .skipWhenBusy) (depth : Nat) :
  Responder.Reentrant (probed probe depth) r
  := by
  intro q amid i s reports c
  have uses (t : Touch) : t.uses q = t.uses r := Touch.uses_congr amid.context amid.primitives t
  cases depth with
  | zero => exact ⟨silent, [], nofun, rfl⟩
  | succ depth =>
    refine ⟨probed probe depth, probe s c.kind, ?_, probed_succ probe depth s c q⟩
    intro t mem a used
    obtain ⟨tally, same⟩ := amid.monitor i
    have sink : (r.monitor i).sink = s := by
      rw [← reports.sink, same]
    obtain ⟨rfl, skips⟩ := own s c.kind t mem a (uses t ▸ used) i sink
    exact ⟨i, rfl, reports.held, by rw [same, skips]⟩

/-- A rig in which one monitor, whose callers do not wait, sees the calls of a scripted primitive
as a decorator, and those of a native one as a hook. -/
def foyer : Rig CaseRecord where
  handle _ := {}
  script _ := {}
  context
    | 0 => { primitive := .instrumented (.bare 0 .scripted) 0 0 }
    | 1 => { primitive := .bare 1 .native, hook := some (.monitor 0) }
    | _ => { primitive := .bare 2 .native }
  monitor i := { sink := i, settings := { guardPolicy := .skipWhenBusy } }
  sink _ := .fresh
  slot _ := {}
  primitives := []
  started := 0
  transcript := []

/-- The monitor is knocked at in every way. -/
def knocks : List Touch :=
  [.call (.worker 0) 0 1 .init, .call (.worker 0) 1 2 .lock, .call (.worker 0) 0 0 .unlock,
    .check 0]

/-- Sinks that knock when a violation is recorded. -/
def knocker : Family Probe := fun s k => if s = 0 ∧ k = .record then knocks else []

/-- The sink is told of a lock without initialisation, and knocks in vain. -/
theorem reentrance_inert_knocks :
  let R : Responder CaseRecord := probed knocker 1
  let held := foyer.setMonitor 0 (foyer.monitor 0).hold
  (∀ t ∈ knocks, t.Barred held)
    ∧ (Touch.performAll R held knocks).2.transcript
      = [.logged (.observationSkipped .init), .logged (.observationSkipped (.lock true)),
        .logged (.observationSkipped .unlock), .logged .checkSkipped]
    ∧ (Touch.performAll R held knocks).2.monitor = held.monitor
    ∧ R.Reentrant foyer
    ∧ .nested 0 (.pending none) ∈ (foyer.call R (.worker 0) 0 0 .lock).2.transcript
    ∧ (foyer.call R (.worker 0) 0 0 .lock).2.monitor
      = (foyer.call silent (.worker 0) 0 0 .lock).2.monitor
    ∧ (foyer.call R (.worker 0) 0 0 .lock).2.sink
      = (foyer.call silent (.worker 0) 0 0 .lock).2.sink
  := by
  intro R held
  have sole {r : Rig CaseRecord} (context : r.context = foyer.context) :
      ∀ t ∈ knocks, ∀ a ∈ t.uses r, a = .monitor 0 := by
    intro t mem a used
    have among : t.uses r = [.monitor 0] := by
      simp only [knocks, List.mem_cons, List.not_mem_nil, or_false] at mem
      obtain rfl | rfl | rfl | rfl := mem
      · rw [Touch.uses, context]; rfl
      · rw [Touch.uses, context]; rfl
      · rw [Touch.uses, context]; rfl
      · rfl
    rw [among] at used
    exact List.mem_singleton.mp used
  have barred : ∀ t ∈ knocks, t.Barred held :=
    fun t mem a used => ⟨0, sole rfl t mem a used, rfl, rfl⟩
  have reentrant : R.Reentrant foyer := by
    apply reentrant_probed
    intro s k t mem a used i sink
    rw [knocker] at mem
    split at mem
    · obtain rfl : i = 0 := sink.trans (And.left ‹_›)
      exact ⟨sole rfl t mem a used, rfl⟩
    · cases mem
  obtain ⟨inert, same⟩ := reentrance_inert (σ := CaseRecord)
  obtain ⟨-, transcript, -, monitor, -⟩ := inert R held knocks barred
  obtain ⟨counted, sinks, -⟩ := same R foyer reentrant (.call (.worker 0) 0 0 .lock)
  exact ⟨barred, transcript.trans (by decide +kernel), monitor, reentrant, by decide +kernel,
    counted, sinks⟩

end Rig

end LockDiscipline
