import Mathlib.Tactic.Use
import LockDiscipline.Proofs.Layers
import LockDiscipline.Proofs.Observation

/-!
# Coupled rigs

Two rigs may have sinks of different types, and sinks that respond in different ways.  A coupling
is a relation between such rigs that is kept by the changes of single objects which observations
and checks consist of (`Rig.Coupling`), as far as they are about a group of objects (`Group`).
Then it is kept by observations and by checks.

A bond is a coupling for which bare primitives do their work alike (`Rig.Bond`).  It is kept by
mutex calls and by test cases, too, and calls are answered alike.  So are checks and test cases
if sinks answer alike.

Of a monitor only what `Monitor.Like` says matters.  In particular the number of live handles may
differ, as long as the surplus over the baseline does not.
-/

namespace LockDiscipline

/-! ### Monitors -/

/-- Two monitors that react alike to calls and checks. -/
structure Monitor.Like (x x' : Monitor) : Prop where
  sink : x'.sink = x.sink
  policy : x'.settings.guardPolicy = x.settings.guardPolicy
  echo : x'.settings.echo = x.settings.echo
  held : x'.tally.held = x.tally.held
  leaked : x'.tally.value.leaked = x.tally.value.leaked

theorem Monitor.Like.refl (x : Monitor) :
  x.Like x
  := ⟨rfl, rfl, rfl, rfl, rfl⟩

theorem Monitor.Like.attempt {x x' : Monitor} (like : x.Like x') :
  x'.attempt = x.attempt
  := by simp [Monitor.attempt, Guard.attempt, like.held, like.policy]

/-- What calls and checks do to a monitor. -/
inductive Monitor.Change where
  | hold
  | release
  | count (d : Int)
  | settle

/-- The monitor after a change. -/
def Monitor.Change.apply (x : Monitor) : Monitor.Change → Monitor
  | hold => x.hold
  | release => x.release
  | count d => x.adjust (·.count d)
  | settle => x.adjust Tally.settle

/-- Monitors that react alike go on reacting alike. -/
theorem Monitor.Like.change {x x' : Monitor} (like : x.Like x') (c : Monitor.Change) :
  (c.apply x).Like (c.apply x')
  := by
  obtain ⟨sink, policy, echo, held, leaked⟩ := like
  cases c with
  | hold => exact ⟨sink, policy, echo, rfl, leaked⟩
  | release => exact ⟨sink, policy, echo, rfl, leaked⟩
  | count d =>
    refine ⟨sink, policy, echo, held, ?_⟩
    simp only [Change.apply, adjust, Guard.put, Tally.leaked_count, leaked]
  | settle =>
    refine ⟨sink, policy, echo, held, ?_⟩
    simp only [Change.apply, adjust, Guard.put, Tally.leaked_settle]

/-! ### Groups -/

/-- A group of objects. -/
structure Group where
  handle : Nat → Prop
  script : Nat → Prop
  context : Nat → Prop
  monitor : Nat → Prop
  sink : Nat → Prop

namespace Group

/-- The group of all objects. -/
def all : Group := ⟨fun _ => True, fun _ => True, fun _ => True, fun _ => True, fun _ => True⟩

variable {G : Group}

/-- What calls go through involves objects of the group only. -/
structure Owns (G : Group) (c : Context) : Prop where
  script : c.primitive.kind = .scripted → G.script c.primitive.bottom
  monitor : ∀ i, .monitor i ∈ c.observers → G.monitor i

theorem owns_all (c : Context) :
  all.Owns c
  := ⟨fun _ => trivial, fun _ _ => trivial⟩

end Group

namespace Rig

variable {σ τ : Type}

/-- Monitor `i` holds its guard, and reports to sink `s`. -/
structure ReportsTo (i s : Nat) (r : Rig σ) : Prop where
  held : (r.monitor i).tally.held = true
  sink : (r.monitor i).sink = s

theorem reports_hold (r : Rig σ) (i : Nat) :
  (r.setMonitor i (r.monitor i).hold).ReportsTo i (r.monitor i).sink
  := by
  constructor
  · simp [setMonitor, Monitor.hold, Guard.hold]
  · simp [setMonitor, Monitor.hold]

theorem ReportsTo.settle {r : Rig σ} {i s : Nat} (reports : r.ReportsTo i s) :
  (r.setMonitor i ((r.monitor i).adjust Tally.settle)).ReportsTo i s
  := by
  constructor
  · simpa [setMonitor, Monitor.adjust, Guard.put] using reports.held
  · simpa [setMonitor, Monitor.adjust] using reports.sink

theorem ReportsTo.echoFor {r : Rig σ} {i s : Nat} (reports : r.ReportsTo i s) (j : Nat)
    (text : String) :
  (r.echoFor j text).ReportsTo i s
  := by
  rw [Rig.echoFor]
  split
  · exact ⟨reports.held, reports.sink⟩
  · exact reports

variable [Sink σ] [Sink τ]

/-- A relation between rigs that is kept by what observations and checks of monitors of the group
do to handles of the group.  Sinks are called only while the guard of a monitor is held. -/
structure Coupling (G : Group) (R : Responder σ) (R' : Responder τ) (S : Rig σ → Rig τ → Prop) :
    Prop where
  byte {r : Rig σ} {r' : Rig τ} : S r r' → ∀ m, G.handle m → (r'.handle m).byte = (r.handle m).byte
  like {r : Rig σ} {r' : Rig τ} : S r r' → ∀ i, G.monitor i → (r.monitor i).Like (r'.monitor i)
  mark {r : Rig σ} {r' : Rig τ} : S r r' → ∀ m, G.handle m → ∀ s : LockState,
    S (r.setHandle m ((r.handle m).mark s)) (r'.setHandle m ((r'.handle m).mark s))
  change {r : Rig σ} {r' : Rig τ} : S r r' → ∀ i, G.monitor i → ∀ c : Monitor.Change,
    S (r.setMonitor i (c.apply (r.monitor i))) (r'.setMonitor i (c.apply (r'.monitor i)))
  emit {r : Rig σ} {r' : Rig τ} :
    S r r' → ∀ e, (∀ s, e ≠ .logged (.enabled s)) → S (r.emit e) (r'.emit e)
  tell {r : Rig σ} {r' : Rig τ} : S r r' → ∀ i s, G.monitor i → r.ReportsTo i s → ∀ c,
    S (r.tell R s c) (r'.tell R' s c) ∧ (r.tell R s c).ReportsTo i s
  plead {r : Rig σ} {r' : Rig τ} : S r r' → ∀ i s, G.monitor i → r.ReportsTo i s →
    S (r.plead R s) (r'.plead R' s) ∧ (r.plead R s).ReportsTo i s

namespace Coupling

variable {G : Group} {R : Responder σ} {R' : Responder τ} {S : Rig σ → Rig τ → Prop} {r : Rig σ}
  {r' : Rig τ} {i : Nat}

/-- It is enough that sinks answer alike. -/
theorem plead_of_alike
    (tell : ∀ {r : Rig σ} {r' : Rig τ}, S r r' → ∀ i s, G.monitor i → r.ReportsTo i s → ∀ c,
      S (r.tell R s c) (r'.tell R' s c) ∧ (r.tell R s c).ReportsTo i s)
    (alike : ∀ {r : Rig σ} {r' : Rig τ}, S r r' → ∀ i s, G.monitor i → r.ReportsTo i s →
      Sink.violation (r'.sink s) = Sink.violation (r.sink s)
        ∧ Sink.verdict (r'.sink s) = Sink.verdict (r.sink s))
    (h : S r r') {s : Nat} (mem : G.monitor i) (reports : r.ReportsTo i s) :
  S (r.plead R s) (r'.plead R' s) ∧ (r.plead R s).ReportsTo i s
  := by
  obtain ⟨asked, stays⟩ := tell h i s mem reports .violation
  obtain ⟨judged, stays'⟩ := tell asked i s mem stays .verdict
  simp only [Rig.plead, (alike h i s mem reports).1, convict, askVerdict,
    (alike asked i s mem stays).2]
  by_cases pending : (Sink.violation (r.sink s)).isSome = true
  · by_cases failed : Sink.verdict ((r.tell R s .violation).sink s) = .failed
    · simp only [pending, failed, ↓reduceIte]
      exact ⟨judged, stays'⟩
    · simp only [pending, failed, ↓reduceIte]
      exact tell judged i s mem stays' _
  · simp only [pending, Bool.false_eq_true, ↓reduceIte]
    exact ⟨asked, stays⟩

/-! ### Observations -/

theorem echoFor (k : Coupling G R R' S) (h : S r r') (mem : G.monitor i) (s : String) :
  S (r.echoFor i s) (r'.echoFor i s)
  := by
  rw [Rig.echoFor, Rig.echoFor, (k.like h i mem).echo]
  split
  · exact k.emit h _ (by simp)
  · exact h

theorem log (k : Coupling G R R' S) (h : S r r') {e : Event} (other : ∀ s, e ≠ .enabled s) :
  S (r.log e) (r'.log e)
  := by
  apply k.emit h
  intro s same
  exact other s (Effect.logged.inj same)

theorem judge (k : Coupling G R R' S) (h : S r r') (mem : G.monitor i) {s : Nat}
    (reports : r.ReportsTo i s) (op : Operation) {m : Nat} (handle : G.handle m) :
  S (r.judge R i op m) (r'.judge R' i op m)
  := by
  rw [Rig.judge, Rig.judge, k.byte h m handle]
  cases transition (r.handle m).byte op with
  | ok c => exact k.change (k.mark h m handle _) i mem (.count c.delta)
  | error v =>
    obtain ⟨told, -⟩ := k.tell h i s mem reports (.record v)
    simp only [report, (k.like h i mem).sink, reports.sink]
    exact k.echoFor (k.log told (by simp)) mem _

theorem observe (k : Coupling G R R' S) (h : S r r') (mem : G.monitor i) (op : Operation) {m : Nat}
    (handle : G.handle m) :
  S (r.observe R i op m) (r'.observe R' i op m)
  := by
  rw [Rig.observe, Rig.observe, (k.like h i mem).attempt]
  cases (r.monitor i).attempt with
  | acquired =>
    have judged := k.judge (k.change h i mem .hold) mem (reports_hold r i) op handle
    exact k.change judged i mem .release
  | busy => exact k.log h (by simp)
  | waiting => exact h

theorem notifyAll (k : Coupling G R R' S) (h : S r r') (n : Notice) {m : Nat} (handle : G.handle m)
    {os : List Observer} (among : ∀ i, .monitor i ∈ os → G.monitor i) :
  S (r.notifyAll R n m os) (r'.notifyAll R' n m os)
  := by
  induction os generalizing r r' with
  | nil => exact h
  | cons a os ih =>
    refine ih ?_ fun i mem => among i (List.mem_cons_of_mem a mem)
    cases a with
    | monitor i => exact k.observe h (among i List.mem_cons_self) n.operation handle
    | recorder j =>
      rw [notify, notify, k.byte h m handle]
      exact k.emit h _ (by simp)

/-! ### Checks -/

theorem settle (k : Coupling G R R' S) (h : S r r') (mem : G.monitor i) {s : Nat}
    (reports : r.ReportsTo i s) :
  S (r.settle R i) (r'.settle R' i) ∧ (r.settle R i).ReportsTo i s
  := by
  have like := k.like h i mem
  simp only [Rig.settle, like.leaked, like.sink]
  by_cases balanced : (r.monitor i).tally.value.leaked = 0
  · simp only [balanced, ↓reduceIte]
    exact ⟨h, reports⟩
  · simp only [balanced, ↓reduceIte, reports.sink]
    have logged := k.log h (e := .leaked (r.monitor i).tally.value.leaked) (by simp)
    have echoed := k.echoFor logged mem (leakNotice (r.monitor i).tally.value.leaked)
    have stays : (r.log (.leaked (r.monitor i).tally.value.leaked)).ReportsTo i s :=
      ⟨reports.held, reports.sink⟩
    exact k.tell (k.change echoed i mem .settle) i s mem (stays.echoFor i _).settle _

theorem closeCase (k : Coupling G R R' S) (h : S r r') (mem : G.monitor i) {s : Nat}
    (reports : r.ReportsTo i s) :
  S (r.closeCase R i).2 (r'.closeCase R' i).2
  := by
  obtain ⟨settled, stays⟩ := k.settle h mem reports
  obtain ⟨pleaded, stays'⟩ := k.plead settled i s mem stays
  rw [closeCase_eq_plead, closeCase_eq_plead, (k.like h i mem).sink, reports.sink]
  exact (k.tell pleaded i s mem stays' .clear).1

theorem check (k : Coupling G R R' S) (h : S r r') (mem : G.monitor i) :
  S (r.check R i).2 (r'.check R' i).2
  := by
  rw [Rig.check, Rig.check, (k.like h i mem).attempt]
  cases (r.monitor i).attempt with
  | acquired =>
    have closed := k.closeCase (k.change h i mem .hold) mem (reports_hold r i)
    exact k.change closed i mem .release
  | busy => exact k.log h (by simp)
  | waiting => exact h

end Coupling

/-! ### Calls -/

/-- A coupling for which bare primitives of the group do their work alike, and sinks of the group
may be called at any time. -/
structure Bond (G : Group) (R : Responder σ) (R' : Responder τ) (S : Rig σ → Rig τ → Prop) : Prop
    extends Coupling G R R' S where
  handle {r : Rig σ} {r' : Rig τ} : S r r' → ∀ m, G.handle m → r'.handle m = r.handle m
  script {r : Rig σ} {r' : Rig τ} : S r r' → ∀ n, G.script n → r'.script n = r.script n
  setHandle {r : Rig σ} {r' : Rig τ} :
    S r r' → ∀ m, G.handle m → ∀ a, S (r.setHandle m a) (r'.setHandle m a)
  setScript {r : Rig σ} {r' : Rig τ} :
    S r r' → ∀ n, G.script n → ∀ q, S (r.setScript n q) (r'.setScript n q)
  akin {r : Rig σ} {r' : Rig τ} : S r r' → ∀ x, G.context x →
    (r'.context x).primitive.kind = (r.context x).primitive.kind
      ∧ (r'.context x).primitive.bottom = (r.context x).primitive.bottom
      ∧ (r'.context x).observers = (r.context x).observers
  owns {r : Rig σ} {r' : Rig τ} : S r r' → ∀ x, G.context x → G.Owns (r.context x)
  reports {r : Rig σ} {r' : Rig τ} : S r r' → ∀ i, G.monitor i → G.sink (r.monitor i).sink
  address {r : Rig σ} {r' : Rig τ} :
    S r r' → ∀ s, G.sink s → ∀ c, S (r.tell R s c) (r'.tell R' s c)

/-- Sinks of the group answer alike in related rigs. -/
def Candid (G : Group) (S : Rig σ → Rig τ → Prop) : Prop :=
  ∀ r r', S r r' → ∀ s, G.sink s →
    Sink.violation (r'.sink s) = Sink.violation (r.sink s)
      ∧ Sink.verdict (r'.sink s) = Sink.verdict (r.sink s)

namespace Bond

variable {G : Group} {R : Responder σ} {R' : Responder τ} {S : Rig σ → Rig τ → Prop} {r : Rig σ}
  {r' : Rig τ} {i : Nat}

theorem serveBare (k : Bond G R R' S) (h : S r r') (o : Owner) {p : Primitive}
    (script : p.kind = .scripted → G.script p.bottom) {m : Nat} (handle : G.handle m) (c : Call) :
  (r'.serveBare o p m c).1 = (r.serveBare o p m c).1
    ∧ S (r.serveBare o p m c).2 (r'.serveBare o p m c).2
  := by
  rw [serveBare.eq_def, serveBare.eq_def, k.handle h m handle]
  cases kind : p.kind with
  | scripted =>
    simp only [k.script h _ (script kind), true_and]
    exact k.setScript h _ (script kind) _
  | native =>
    cases c with
    | init => exact ⟨rfl, h⟩
    | free => exact ⟨rfl, h⟩
    | lock => exact ⟨rfl, k.setHandle h m handle _⟩
    | unlock => exact ⟨rfl, k.setHandle h m handle _⟩

/-- Calls of primitives with hooks are answered alike. -/
theorem serve (k : Bond G R R' S) (h : S r r') (o : Owner) {p : Primitive}
    {hook : Option Observer} (owns : G.Owns ⟨p, hook⟩) {m : Nat} (handle : G.handle m) (c : Call) :
  (r'.serve R' o p hook m c).1 = (r.serve R o p hook m c).1
    ∧ S (r.serve R o p hook m c).2 (r'.serve R' o p hook m c).2
  := by
  have blocks : r'.blocks p m c = r.blocks p m c := by
    rw [Rig.blocks, Rig.blocks, k.handle h m handle]
  have outwards {r : Rig σ} {r' : Rig τ} (h : S r r') (n : Notice) :
      S (r.notifyAll R n m (p.observers hook)) (r'.notifyAll R' n m (p.observers hook)) :=
    k.notifyAll h n handle owns.monitor
  have inwards {r : Rig σ} {r' : Rig τ} (h : S r r') (n : Notice) :
      S (r.notifyAll R n m (p.observers hook).reverse)
        (r'.notifyAll R' n m (p.observers hook).reverse) :=
    k.notifyAll h n handle fun i mem => owns.monitor i (List.mem_reverse.mp mem)
  have served {r : Rig σ} {r' : Rig τ} (h : S r r') (c : Call) :=
    k.serveBare h o owns.script handle c
  rw [serve.eq_def, serve.eq_def, blocks]
  by_cases waits : r.blocks p m c = true
  · simp only [waits]
    exact ⟨rfl, h⟩
  · simp only [waits]
    cases c with
    | init => exact ⟨rfl, outwards (served h .init).2 _⟩
    | free => exact ⟨rfl, (served (inwards h _) .free).2⟩
    | lock =>
      obtain ⟨status, after⟩ := served h .lock
      simp only [status]
      exact ⟨rfl, outwards after _⟩
    | unlock =>
      obtain ⟨status, after⟩ := served (inwards h .unlocking) .unlock
      exact ⟨congrArg Reply.status status, after⟩

/-- Calls of primitives themselves are answered alike. -/
theorem callDirectly (k : Bond G R R' S) (h : S r r') (o : Owner) {p : Primitive}
    (owns : G.Owns ⟨p, none⟩) {m : Nat} (handle : G.handle m) (c : Call) :
  (r'.callDirectly R' o p m c).1 = (r.callDirectly R o p m c).1
    ∧ S (r.callDirectly R o p m c).2 (r'.callDirectly R' o p m c).2
  := by
  rw [callDirectly_eq_serve, callDirectly_eq_serve]
  exact k.serve h o owns handle c

/-- Calls through contexts are answered alike. -/
theorem call (k : Bond G R R' S) (h : S r r') (o : Owner) {x : Nat} (context : G.context x)
    {m : Nat} (handle : G.handle m) (c : Call) :
  (r'.call R' o x m c).1 = (r.call R o x m c).1
    ∧ S (r.call R o x m c).2 (r'.call R' o x m c).2
  := by
  obtain ⟨kind, bottom, observers⟩ := k.akin h x context
  have congr : r'.call R' o x m c
      = r'.serve R' o (r.context x).primitive (r.context x).hook m c := by
    rw [call_eq_serve]
    exact serve_congr R' kind bottom observers o m c
  rw [congr, call_eq_serve]
  exact k.serve h o (k.owns h x context) handle c

/-! ### Test cases -/

/-- Checks are answered alike if sinks answer alike. -/
theorem answer_check (k : Bond G R R' S) (candid : Candid G S) (h : S r r') (mem : G.monitor i) :
  (r'.check R' i).1 = (r.check R i).1
  := by
  rw [Rig.check, Rig.check, (k.like h i mem).attempt]
  cases (r.monitor i).attempt with
  | acquired =>
    have held := k.change h i mem .hold
    obtain ⟨settled, -⟩ := k.settle held mem (reports_hold r i)
    simp only [closeCase_eq_plead]
    have sink := (k.like held i mem).sink
    simp only [Monitor.Change.apply] at sink settled
    rw [sink]
    exact (candid _ _ settled _ (k.reports held i mem)).1
  | busy => rfl
  | waiting => rfl

/-- A panic is told to the sink, then the check follows, and the sink is asked for a verdict. -/
theorem concludeCase_eq (R : Responder σ) (i : Nat) (panic : Option Panic) (r : Rig σ) :
  r.concludeCase R i panic
    = ((match panic with
        | some p => r.tell R (r.monitor i).sink (.fail p.failure)
        | none => r).check R i).2.askVerdict R (r.monitor i).sink
  := rfl

/-- Test cases end alike. -/
theorem concludeCase (k : Bond G R R' S) (h : S r r') (mem : G.monitor i) (panic : Option Panic) :
  S (r.concludeCase R i panic).2 (r'.concludeCase R' i panic).2
    ∧ (Candid G S → (r'.concludeCase R' i panic).1 = (r.concludeCase R i panic).1)
  := by
  have sink := k.reports h i mem
  have concluded {r₁ : Rig σ} {r₁' : Rig τ} (h₁ : S r₁ r₁') :
      S ((r₁.check R i).2.askVerdict R (r.monitor i).sink).2
          ((r₁'.check R' i).2.askVerdict R' (r.monitor i).sink).2
        ∧ (Candid G S → ((r₁'.check R' i).2.askVerdict R' (r.monitor i).sink).1
          = ((r₁.check R i).2.askVerdict R (r.monitor i).sink).1) := by
    have checked := k.toCoupling.check h₁ mem
    constructor
    · exact k.address checked _ sink .verdict
    · exact fun candid => (candid _ _ checked _ sink).2
  rw [concludeCase_eq, concludeCase_eq, (k.like h i mem).sink]
  cases panic with
  | none => exact concluded h
  | some p => exact concluded (k.address h _ sink _)

end Bond

end Rig

end LockDiscipline
