import LockDiscipline.Proofs.Discipline.Detection

/-!
# What is installed while the library is used

What is installed (`Rig.installation`) are the contexts and, for each monitor, its settings and
what it has replaced.  Sinks are steady (`Responder.Steady`) if they leave that as it is when
they are called.  Then so does every use of the library that can be made from inside another
one: observations, calls, checks (`Rig.installation_perform`).  Probes are steady, however
deep their touches are followed (`steady_probed`).

A sink is quiet (`Responder.Quiet`) if calling it changes nothing but the sink.  If the sinks of
those who observe a context are quiet, calls through it change nobody else
(`Rig.Spares.performAll`).
-/

namespace LockDiscipline

open Discipline (Request)

variable {σ : Type}

namespace Rig

/-- The contexts, and the settings of monitors with what they have replaced. -/
def installation (r : Rig σ) : Family Context × Family (Settings × Option Replaced) :=
  (r.context, fun i => ((r.monitor i).settings, (r.monitor i).replaced))

/-- Changing a monitor otherwise does not matter. -/
theorem installation_setMonitor {r : Rig σ} {i : Nat} {y : Monitor}
    (settings : y.settings = (r.monitor i).settings)
    (replaced : y.replaced = (r.monitor i).replaced) :
  (r.setMonitor i y).installation = r.installation
  := by
  have same (j : Nat) : (((r.setMonitor i y).monitor j).settings,
      ((r.setMonitor i y).monitor j).replaced)
        = ((r.monitor j).settings, (r.monitor j).replaced) := by
    by_cases here : j = i
    · subst here
      simp [setMonitor, settings, replaced]
    · simp [setMonitor, here]
  exact congrArg (Prod.mk r.context) (funext same)

theorem installation_hold (r : Rig σ) (i : Nat) :
  (r.setMonitor i (r.monitor i).hold).installation = r.installation
  := installation_setMonitor rfl rfl

theorem installation_release (r : Rig σ) (i : Nat) :
  (r.setMonitor i (r.monitor i).release).installation = r.installation
  := installation_setMonitor rfl rfl

theorem installation_adjust (r : Rig σ) (i : Nat) (f : Tally → Tally) :
  (r.adjust i f).installation = r.installation
  := installation_setMonitor rfl rfl

theorem installation_echoFor (r : Rig σ) (i : Nat) (s : String) :
  (r.echoFor i s).installation = r.installation
  := by
  rw [echoFor_eq]
  rfl

theorem installation_guarded {f : Rig σ → Rig σ}
    (leaves : ∀ r : Rig σ, (f r).installation = r.installation) (r : Rig σ) (i : Nat) :
  (r.guarded i f).installation = r.installation
  := by
  rw [guarded, installation_release, leaves, installation_hold]

end Rig

/-- Sinks are steady if calling them leaves what is installed. -/
def Responder.Steady (R : Responder σ) : Prop :=
  ∀ s c r, (R s c r).installation = r.installation

theorem steady_silent :
  Responder.Steady (silent (σ := σ))
  := fun _ _ _ => rfl

namespace Rig

variable [Sink σ] {R : Responder σ}

section

variable (steady : R.Steady)

include steady

theorem installation_tell (r : Rig σ) (s : Nat) (c : SinkCall) :
  (r.tell R s c).installation = r.installation
  := by
  rw [tell, steady]
  rfl

theorem installation_observe (r : Rig σ) (i : Nat) (op : Operation) (m : Nat) :
  (r.observe R i op m).installation = r.installation
  := by
  have judged (r : Rig σ) : (r.judge R i op m).installation = r.installation := by
    rw [judge]
    cases transition (r.handle m).byte op with
    | ok c => apply installation_adjust
    | error v =>
      simp only [report, installation_echoFor]
      apply installation_tell steady
  rw [observe]
  cases (r.monitor i).attempt with
  | acquired => exact installation_guarded judged r i
  | busy => rfl
  | waiting => rfl

theorem installation_serve (r : Rig σ) (o : Owner) (p : Primitive) (hook : Option Observer)
    (m : Nat) (c : Call) :
  (r.serve R o p hook m c).2.installation = r.installation
  := by
  apply serve_of_told (P := fun r r' => r'.installation = r.installation)
  case refl => exact fun _ => rfl
  case trans => exact fun _ _ _ first second => second.trans first
  case bare => exact fun _ _ _ _ => rfl
  case told =>
    intro a _ r n
    cases a with
    | monitor i => apply installation_observe steady
    | recorder k => rfl

theorem installation_check (r : Rig σ) (i : Nat) :
  (r.check R i).2.installation = r.installation
  := by
  have told := installation_tell steady
  have settled (r : Rig σ) : (r.settle R i).installation = r.installation := by
    rw [settle]
    split
    · rfl
    · rw [told, installation_adjust, installation_echoFor]
      rfl
  have convicted (r : Rig σ) (s : Nat) : (r.convict R s).installation = r.installation := by
    simp only [convict, askVerdict]
    by_cases failed : Sink.verdict (r.sink s) = .failed
    · simp only [failed, ↓reduceIte, told]
    · simp only [failed, ↓reduceIte, told]
  have closed (r : Rig σ) : (r.closeCase R i).2.installation = r.installation := by
    simp only [closeCase, askViolation, told]
    by_cases pending : (Sink.violation ((r.settle R i).sink (r.monitor i).sink)).isSome = true
    · simp only [pending, ↓reduceIte, convicted, told, settled]
    · simp only [pending, Bool.false_eq_true, ↓reduceIte, told, settled]
  rw [check]
  cases (r.monitor i).attempt with
  | acquired =>
    apply (installation_release _ i).trans
    rw [closed, installation_hold]
  | busy => rfl
  | waiting => rfl

/-- No touch changes what is installed. -/
theorem installation_perform (r : Rig σ) (t : Touch) :
  (t.perform R r).2.installation = r.installation
  := by
  cases t with
  | call o x m c =>
    rw [Touch.perform, call_eq_serve]
    exact installation_serve steady r o _ _ m c
  | callDirectly o n m c =>
    rw [Touch.perform, callDirectly_eq_serve]
    exact installation_serve steady r o (r.primitive n) none m c
  | notice i m n => exact installation_observe steady r i n.operation m
  | check i => exact installation_check steady r i

end

end Rig

/-! ### Probes -/

section

variable [Sink σ]

/-- The rig after touches of sink `s`, each of which becomes visible when it is done. -/
def Touch.nestAll (R : Responder σ) (s : Nat) (r : Rig σ) (ts : List Touch) : Rig σ :=
  ts.foldl (fun r t => (t.perform R r).2.emit (.nested s (t.perform R r).1)) r

theorem probed_succ (probe : Family Probe) (depth s : Nat) (c : SinkCall) (r : Rig σ) :
  probed probe (depth + 1) s c r = Touch.nestAll (probed probe depth) s r (probe s c.kind)
  := rfl

/-- What holds from before to after each touch of a sink holds from before to after all. -/
theorem nestAll_of_perform {P : Rig σ → Rig σ → Prop} {R : Responder σ} {s : Nat} {ts : List Touch}
    (refl : ∀ r, P r r) (trans : ∀ r r' r'', P r r' → P r' r'' → P r r'')
    (made : ∀ t ∈ ts, ∀ r a, P r ((t.perform R r).2.emit (.nested s a))) (r : Rig σ) :
  P r (Touch.nestAll R s r ts)
  := by
  induction ts generalizing r with
  | nil => exact refl r
  | cons t ts ih =>
    apply trans _ _ _ (made t List.mem_cons_self r _)
    exact ih (fun t mem => made t (List.mem_cons_of_mem _ mem)) _

/-- Probes are steady. -/
theorem steady_probed (probe : Family Probe) (depth : Nat) :
  Responder.Steady (probed (σ := σ) probe depth)
  := by
  induction depth with
  | zero => exact steady_silent
  | succ depth ih =>
    intro s c r
    rw [probed_succ]
    apply nestAll_of_perform (P := fun r r' => r'.installation = r.installation)
    case refl => exact fun _ => rfl
    case trans => exact fun _ _ _ first second => second.trans first
    case made => exact fun t _ r _ => Rig.installation_perform ih r t

end

/-! ### Quiet sinks -/

/-- Sink `s` does not use the library when it is called. -/
def Responder.Quiet (R : Responder σ) (s : Nat) : Prop := ∀ c r, R s c r = r

namespace Rig

/-- From one rig to the next only the observers `os` and their sinks may have changed, and
bytes only if there is a monitor among them. -/
structure Spares (os : List Observer) (r r' : Rig σ) : Prop where
  context : r'.context = r.context
  reports : ∀ j, (r'.monitor j).sink = (r.monitor j).sink
  monitor : ∀ j, .monitor j ∉ os → r'.monitor j = r.monitor j
  sink : ∀ s, (∀ j, .monitor j ∈ os → (r.monitor j).sink ≠ s) → r'.sink s = r.sink s
  byte : (∀ j, .monitor j ∉ os) → ∀ m, (r'.handle m).byte = (r.handle m).byte

namespace Spares

variable {os : List Observer} {r r' r'' : Rig σ} {i x : Nat}

theorem of_eq (context : r'.context = r.context) (monitor : r'.monitor = r.monitor)
    (sink : r'.sink = r.sink) (byte : ∀ m, (r'.handle m).byte = (r.handle m).byte) :
  Spares os r r'
  := ⟨context, by simp [monitor], by simp [monitor], by simp [sink], fun _ => byte⟩

theorem trans (h : Spares os r r') (h' : Spares os r' r'') :
  Spares os r r''
  := by
  constructor
  case context => rw [h'.context, h.context]
  case reports =>
    intro j
    rw [h'.reports, h.reports]
  case monitor =>
    intro j other
    rw [h'.monitor j other, h.monitor j other]
  case sink =>
    intro s other
    rw [h'.sink s fun j mem => h.reports j ▸ other j mem, h.sink s other]
  case byte =>
    intro alone m
    rw [h'.byte alone, h.byte alone]

/-- One of the observers may change. -/
theorem of_mem (mem : .monitor i ∈ os) (context : r'.context = r.context)
    (reports : ∀ j, (r'.monitor j).sink = (r.monitor j).sink)
    (monitor : ∀ j, j ≠ i → r'.monitor j = r.monitor j)
    (sink : ∀ s, s ≠ (r.monitor i).sink → r'.sink s = r.sink s) :
  Spares os r r'
  := by
  constructor
  case context => exact context
  case reports => exact reports
  case monitor =>
    intro j other
    apply monitor
    rintro rfl
    exact other mem
  case sink => exact fun s other => sink s (other i mem).symm
  case byte => exact fun alone => absurd mem (alone i)

variable [Sink σ] {R : Responder σ}

/-- An observation changes the monitor that observes, and its sink if that is quiet. -/
theorem observe (mem : .monitor i ∈ os) (quiet : R.Quiet (r.monitor i).sink) (op : Operation)
    (m : Nat) :
  Spares os r (r.observe R i op m)
  := by
  have silenced : r.observe R i op m = r.observe silent i op m := by
    have told (r' : Rig σ) (c : SinkCall) :
        r'.tell R (r.monitor i).sink c = r'.tell silent (r.monitor i).sink c := quiet _ _
    simp [Rig.observe, guarded, judge, report, setMonitor, Monitor.hold, told]
  rw [silenced]
  obtain ⟨c, counted⟩ | ⟨v, reported⟩ | skipped | waits := observe_cases (r := r) i op m
  · rw [counted]
    have monitor (j : Nat) (other : j ≠ i) :
        (((r.setHandle m ((r.handle m).mark c.next)).adjust i (·.count c.delta)).monitor j)
          = r.monitor j := Family.set_of_ne _ _ other
    apply of_mem mem
    case context => rfl
    case reports =>
      intro j
      by_cases here : j = i
      · subst here
        simp [adjust, setMonitor, setHandle, Monitor.adjust]
      · rw [monitor j here]
    case monitor => exact monitor
    case sink => exact fun _ _ => rfl
  · rw [reported, report_eq]
    apply of_mem mem
    case context => rfl
    case reports => exact fun _ => rfl
    case monitor => exact fun _ _ => rfl
    case sink => exact fun s other => Family.set_of_ne _ _ other
  · rw [skipped]
    exact of_eq rfl rfl rfl fun _ => rfl
  · rw [waits]
    exact of_eq rfl rfl rfl fun _ => rfl

/-- A call changes those who observe the context, and their sinks if those are quiet. -/
theorem call (quiet : ∀ j, .monitor j ∈ (r.context x).observers → R.Quiet (r.monitor j).sink)
    (o : Owner) (m : Nat) (c : Call) :
  Spares (r.context x).observers r (r.call R o x m c).2
  := by
  have spares : (∀ j, .monitor j ∈ (r.context x).observers → R.Quiet (r.monitor j).sink) →
      Spares (r.context x).observers r (r.call R o x m c).2 := by
    apply call_of_told (P := fun r₁ r₂ =>
      (∀ j, .monitor j ∈ (r.context x).observers → R.Quiet (r₁.monitor j).sink) →
        Spares (r.context x).observers r₁ r₂)
    case refl => exact fun _ _ => of_eq rfl rfl rfl fun _ => rfl
    case trans =>
      intro r₁ r₂ r₃ first second quiet
      have spares := first quiet
      apply spares.trans (second _)
      intro j mem
      rw [spares.reports]
      exact quiet j mem
    case bare => exact fun _ _ _ byte _ => of_eq rfl rfl rfl byte
    case told =>
      intro a mem r₁ n quiet
      cases a with
      | monitor i => exact observe mem (quiet i mem) n.operation m
      | recorder k => exact of_eq rfl rfl rfl fun _ => rfl
  exact spares quiet

/-- So do any number of calls. -/
theorem performAll
    (quiet : ∀ j, .monitor j ∈ (r.context x).observers → R.Quiet (r.monitor j).sink)
    (qs : List Request) :
  Spares (r.context x).observers r (Touch.performAll R r (qs.map (Request.touch x))).2
  := by
  induction qs generalizing r with
  | nil => exact of_eq rfl rfl rfl fun _ => rfl
  | cons q qs ih =>
    have first := call quiet q.owner q.handle q.call
    have rest := ih (r := (r.call R q.owner x q.handle q.call).2)
    rw [first.context] at rest
    apply first.trans (rest _)
    intro j mem
    rw [first.reports]
    exact quiet j mem

end Spares

end Rig

end LockDiscipline
