import LockDiscipline.Proofs.Observation
import LockDiscipline.Proofs.Work

/-!
# Echoes make no difference

Muting a rig leaves out all that is echoed: monitors echo no more, and the transcript has no text
on standard output.  Nothing else depends on it, so that muting commutes with everything that can
be done (`Rig.mute_perform`), which is answered the same.  Hence works cannot tell rigs apart that
are the same once they are muted (`Rig.mute_performAll`), as are those that differ in the settings
by which a monitor echoes (`Rig.mute_setEcho`).
-/

namespace LockDiscipline

/-- The monitor, if its echo is switched on or off. -/
def Monitor.withEcho (x : Monitor) (on : Bool) : Monitor :=
  { x with settings := { x.settings with echo := on } }

/-- Whether an effect is no text on standard output. -/
def Effect.unechoed : Effect → Bool
  | echoed _ => false
  | _ => true

/-- What is logged is no text on standard output. -/
theorem events_filter_unechoed (es : List Effect) :
  events (es.filter Effect.unechoed) = events es
  := by
  rw [events, events, List.filterMap_filter]
  congr 1
  funext e
  cases e with
  | _ => rfl

namespace Rig

variable {σ : Type} (r : Rig σ)

/-- The rig, if the echo of monitor `i` is switched on or off. -/
def setEcho (i : Nat) (on : Bool) : Rig σ := r.setMonitor i ((r.monitor i).withEcho on)

/-- The rig without what is echoed. -/
def mute : Rig σ :=
  { r with
    monitor := fun i => (r.monitor i).withEcho false
    transcript := r.transcript.filter Effect.unechoed }

/-! ### Changes of one object -/

theorem mute_emit {e : Effect} (unechoed : e.unechoed = true) :
  r.mute.emit e = (r.emit e).mute
  := by simp [mute, emit, unechoed]

theorem mute_echoFor (i : Nat) (s : String) :
  r.mute.echoFor i s = (r.echoFor i s).mute
  := by
  have quiet : r.mute.echoFor i s = r.mute := rfl
  rw [quiet, echoFor]
  split
  · simp [mute, emit, Effect.unechoed]
  · rfl

theorem mute_setMonitor (i : Nat) (x : Monitor) :
  r.mute.setMonitor i (x.withEcho false) = (r.setMonitor i x).mute
  := by
  have monitor : (r.mute.monitor).set i (x.withEcho false) = (r.setMonitor i x).mute.monitor :=
    (r.monitor.map_set i x (Monitor.withEcho · false)).symm
  rw [setMonitor, monitor]
  rfl

theorem mute_setEcho (i : Nat) (on : Bool) :
  (r.setEcho i on).mute = r.mute
  := by
  have muted : ((r.monitor i).withEcho on).withEcho false = r.mute.monitor i := rfl
  rw [setEcho, ← mute_setMonitor, muted, setMonitor, Family.set_get]

theorem mute_adjust (i : Nat) (f : Tally → Tally) :
  r.mute.adjust i f = (r.adjust i f).mute
  := r.mute_setMonitor i ((r.monitor i).adjust f)

theorem mute_serveBare (o : Owner) (p : Primitive) (m : Nat) (c : Call) :
  r.mute.serveBare o p m c = ((r.serveBare o p m c).1, (r.serveBare o p m c).2.mute)
  := by
  rw [serveBare.eq_def, serveBare.eq_def]
  cases p.kind with
  | scripted => rfl
  | native =>
    cases c with
    | _ => rfl

/-- Rigs that are the same once they are muted are the same but for what is echoed, and for
whether monitors echo. -/
theorem alike_of_mute {r r' : Rig σ} (same : r'.mute = r.mute) :
  r'.handle = r.handle ∧ r'.script = r.script ∧ r'.context = r.context ∧ r'.sink = r.sink
    ∧ (∀ j, (r'.monitor j).tally = (r.monitor j).tally)
    ∧ r'.transcript.filter Effect.unechoed = r.transcript.filter Effect.unechoed
  := by
  have parts (f : Rig σ → Prop) (holds : f r.mute) : f r'.mute := same ▸ holds
  refine ⟨?_, ?_, ?_, ?_, ?_, ?_⟩
  · exact parts (·.handle = r.handle) rfl
  · exact parts (·.script = r.script) rfl
  · exact parts (·.context = r.context) rfl
  · exact parts (·.sink = r.sink) rfl
  · intro j
    exact parts (fun q => (q.monitor j).tally = (r.monitor j).tally) rfl
  · exact parts (·.transcript = r.transcript.filter Effect.unechoed) rfl

/-- What keeps out of what is echoed does so while a guard is held. -/
theorem mute_guarded (i : Nat) {f g : Rig σ → Rig σ} (commute : ∀ r, f r.mute = (g r).mute) :
  r.mute.guarded i f = (r.guarded i g).mute
  := by
  have held : r.mute.setMonitor i (r.mute.monitor i).hold
      = (r.setMonitor i (r.monitor i).hold).mute := r.mute_setMonitor i (r.monitor i).hold
  simp only [guarded, held, commute]
  generalize g (r.setMonitor i (r.monitor i).hold) = r'
  exact r'.mute_setMonitor i (r'.monitor i).release

/-! ### Lifecycle -/

theorem mute_intercept (i x : Nat) :
  r.mute.intercept i x = ((r.intercept i x).1, (r.intercept i x).2.mute)
  := by
  have strategy : (r.mute.monitor i).settings.strategy = (r.monitor i).settings.strategy := rfl
  rw [intercept, intercept, strategy]
  cases (r.monitor i).settings.strategy with
  | substitute =>
    have counted : r.mute.setMonitor i (r.mute.monitor i).countDecorator
        = (r.setMonitor i (r.monitor i).countDecorator).mute :=
      r.mute_setMonitor i (r.monitor i).countDecorator
    simp only [decorate, counted]
    rfl
  | hooks => rfl

theorem mute_enable (i x : Nat) :
  r.mute.enable i x = ((r.enable i x).1, (r.enable i x).2.mute)
  := by
  have replaced : (r.mute.monitor i).replaced = (r.monitor i).replaced := rfl
  rw [enable, enable, replaced]
  cases (r.monitor i).replaced with
  | some old => rfl
  | none =>
    rw [mute_intercept]
    generalize r.intercept i x = made
    obtain ⟨old, r'⟩ := made
    let y : Monitor := { r'.monitor i with replaced := some old }
    have saved : r'.mute.setMonitor i { r'.mute.monitor i with replaced := some old }
        = (r'.setMonitor i y).mute := r'.mute_setMonitor i y
    simp only [saved]
    exact congrArg (Prod.mk _) (mute_emit _ rfl)

theorem mute_disable (i x : Nat) :
  r.mute.disable i x = ((r.disable i x).1, (r.disable i x).2.mute)
  := by
  have replaced : (r.mute.monitor i).replaced = (r.monitor i).replaced := rfl
  rw [disable, disable, replaced]
  cases (r.monitor i).replaced with
  | none => rfl
  | some old =>
    let y : Monitor := { r.monitor i with replaced := none }
    have forgot : r.mute.setMonitor i { r.mute.monitor i with replaced := none }
        = (r.setMonitor i y).mute := r.mute_setMonitor i y
    simp only [forgot]
    have restored : (r.setMonitor i y).mute.restore x old
        = ((r.setMonitor i y).restore x old).mute := by
      cases old with
      | _ => rfl
    rw [restored]
    exact congrArg (Prod.mk _) (mute_emit _ rfl)

/-! ### Observations and checks -/

variable [Sink σ]

theorem mute_tell (s : Nat) (c : SinkCall) :
  r.mute.tell silent s c = (r.tell silent s c).mute
  := mute_emit (r.setSink s (Sink.receive (r.sink s) c)) rfl

theorem mute_judge (i : Nat) (op : Operation) (m : Nat) :
  r.mute.judge silent i op m = (r.judge silent i op m).mute
  := by
  rw [judge, judge]
  have byte : (r.mute.handle m).byte = (r.handle m).byte := rfl
  rw [byte]
  cases transition (r.handle m).byte op with
  | ok c => exact mute_adjust (r.setHandle m ((r.handle m).mark c.next)) i (·.count c.delta)
  | error v =>
    have told : r.mute.tell silent (r.mute.monitor i).sink (.record v)
        = (r.tell silent (r.monitor i).sink (.record v)).mute := r.mute_tell _ _
    simp only [report, told]
    generalize r.tell silent (r.monitor i).sink (.record v) = r'
    have logged : r'.mute.log (.violated v op) = (r'.log (.violated v op)).mute :=
      r'.mute_emit rfl
    rw [logged]
    exact mute_echoFor _ i v.notice

theorem mute_observe (i : Nat) (op : Operation) (m : Nat) :
  r.mute.observe silent i op m = (r.observe silent i op m).mute
  := by
  have attempt : (r.mute.monitor i).attempt = (r.monitor i).attempt := rfl
  rw [observe, observe, attempt]
  cases (r.monitor i).attempt with
  | acquired => exact r.mute_guarded i fun r => r.mute_judge i op m
  | busy => exact r.mute_emit rfl
  | waiting => rfl

theorem mute_notifyAll (n : Notice) (m : Nat) (os : List Observer) :
  r.mute.notifyAll silent n m os = (r.notifyAll silent n m os).mute
  := by
  induction os generalizing r with
  | nil => rfl
  | cons o os ih =>
    have told : r.mute.notify silent n m o = (r.notify silent n m o).mute := by
      cases o with
      | monitor i => exact r.mute_observe i n.operation m
      | recorder k => exact r.mute_emit rfl
    rw [notifyAll, List.foldl_cons, told]
    exact ih _

theorem mute_settle (i : Nat) :
  r.mute.settle silent i = (r.settle silent i).mute
  := by
  have leaked : (r.mute.monitor i).tally.value.leaked = (r.monitor i).tally.value.leaked := rfl
  simp only [settle, leaked]
  generalize (r.monitor i).tally.value.leaked = n
  by_cases balanced : n = 0
  · simp only [balanced, ↓reduceIte]
  · simp only [balanced, ↓reduceIte]
    have logged : r.mute.log (.leaked n) = (r.log (.leaked n)).mute := r.mute_emit rfl
    rw [logged, mute_echoFor, mute_adjust]
    exact mute_tell _ _ _

theorem mute_plead (s : Nat) :
  r.mute.plead silent s = (r.plead silent s).mute
  := by
  have asked : r.mute.tell silent s .violation = (r.tell silent s .violation).mute :=
    r.mute_tell s .violation
  simp only [plead, asked, convict, askVerdict]
  have judged : (r.tell silent s .violation).mute.tell silent s .verdict
      = ((r.tell silent s .violation).tell silent s .verdict).mute := mute_tell _ _ _
  have pending : Sink.violation (r.mute.sink s) = Sink.violation (r.sink s) := rfl
  have verdict : Sink.verdict ((r.tell silent s .violation).mute.sink s)
      = Sink.verdict ((r.tell silent s .violation).sink s) := rfl
  rw [judged, pending, verdict]
  by_cases found : (Sink.violation (r.sink s)).isSome = true
  · by_cases failed : Sink.verdict ((r.tell silent s .violation).sink s) = .failed
    · simp only [found, failed, ↓reduceIte]
    · simp only [found, failed, ↓reduceIte]
      exact mute_tell _ _ _
  · simp only [found, Bool.false_eq_true, ↓reduceIte]

theorem mute_closeCase (i : Nat) :
  r.mute.closeCase silent i = ((r.closeCase silent i).1, (r.closeCase silent i).2.mute)
  := by
  simp only [closeCase_eq_plead, mute_settle, mute_plead, mute_tell]
  rfl

theorem mute_check (i : Nat) :
  r.mute.check silent i = ((r.check silent i).1, (r.check silent i).2.mute)
  := by
  have attempt : (r.mute.monitor i).attempt = (r.monitor i).attempt := rfl
  rw [check, check, attempt]
  cases (r.monitor i).attempt with
  | acquired =>
    have held : r.mute.setMonitor i (r.mute.monitor i).hold
        = (r.setMonitor i (r.monitor i).hold).mute := r.mute_setMonitor i (r.monitor i).hold
    simp only [held, mute_closeCase]
    generalize ((r.setMonitor i (r.monitor i).hold).closeCase silent i).2 = r'
    exact congrArg (Prod.mk _) (r'.mute_setMonitor i (r'.monitor i).release)
  | busy => exact congrArg (Prod.mk _) (r.mute_emit rfl)
  | waiting => rfl

theorem mute_serve (o : Owner) (p : Primitive) (hook : Option Observer) (m : Nat) (c : Call) :
  r.mute.serve silent o p hook m c
    = ((r.serve silent o p hook m c).1, (r.serve silent o p hook m c).2.mute)
  := by
  have blocks : r.mute.blocks p m c = r.blocks p m c := rfl
  rw [serve.eq_def, serve.eq_def, blocks]
  by_cases waits : r.blocks p m c = true
  · simp only [waits, ↓reduceIte]
  · simp only [waits, Bool.false_eq_true, ↓reduceIte]
    cases c with
    | _ => simp only [mute_serveBare, mute_notifyAll]

theorem mute_concludeCase (i : Nat) (panic : Option Panic) :
  r.mute.concludeCase silent i panic
    = ((r.concludeCase silent i panic).1, (r.concludeCase silent i panic).2.mute)
  := by
  have sink : (r.mute.monitor i).sink = (r.monitor i).sink := rfl
  rw [Bond.concludeCase_eq, Bond.concludeCase_eq, sink]
  cases panic with
  | none =>
    simp only [mute_check, askVerdict, mute_tell]
    rfl
  | some p =>
    simp only [mute_tell, mute_check, askVerdict]
    rfl

/-! ### Works -/

/-- Whatever is done, nothing but what is echoed depends on whether monitors echo. -/
theorem mute_perform (w : Work) :
  w.perform silent r.mute = ((w.perform silent r).1, (w.perform silent r).2.mute)
  := by
  cases w with
  | enable i x => simp only [Work.perform, mute_enable]
  | disable i x => simp only [Work.perform, mute_disable]
  | call o x m c =>
    have context : r.mute.context = r.context := rfl
    simp only [Work.perform, call_eq_serve, context, mute_serve]
  | callDirectly o p m c => simp only [Work.perform, callDirectly_eq_serve, mute_serve]
  | notice i m n => simp only [Work.perform, mute_observe]
  | check i => simp only [Work.perform, mute_check]
  | rebase i =>
    have rebased : r.mute.adjust i Tally.rebase = (r.adjust i Tally.rebase).mute :=
      r.mute_adjust i Tally.rebase
    simp only [Work.perform, rebase, rebased]
    exact congrArg (Prod.mk _) (mute_emit _ rfl)
  | openCase i => exact congrArg (Prod.mk _) (r.mute_tell _ _)
  | closeCase i panic => simp only [Work.perform, mute_concludeCase]
  | tell s c => exact congrArg (Prod.mk _) (r.mute_tell s c)
  | substitute x p => rfl
  | setHook x hook => rfl
  | script n change => rfl

/-- So it is for any number of works. -/
theorem mute_performAll (ws : List Work) :
  Work.performAll silent r.mute ws
    = ((Work.performAll silent r ws).1, (Work.performAll silent r ws).2.mute)
  := by
  induction ws generalizing r with
  | nil => rfl
  | cons w ws ih => rw [Work.performAll_cons, mute_perform, ih, Work.performAll_cons]

/-- Works are answered the same whether or not a monitor echoes, and do the same but for what is
echoed. -/
theorem mute_performAll_setEcho (i : Nat) (on : Bool) (ws : List Work) :
  ((Work.performAll silent (r.setEcho i on) ws).1,
      (Work.performAll silent (r.setEcho i on) ws).2.mute)
    = Work.performAll silent r.mute ws
  := by rw [← mute_performAll, mute_setEcho]

end Rig

end LockDiscipline
