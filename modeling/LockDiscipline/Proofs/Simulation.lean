import LockDiscipline.Proofs.Coupling
import LockDiscipline.Session.Step

/-!
# Simulations

What calls and checks depend on are handles, scripts, sinks, the bare primitive at the bottom
of every context, those who are told of its calls, and of a monitor what `Monitor.Like` says.
In particular the number of live handles may differ from rig to rig, as long as the surplus
over the baseline does not.

A simulation is a relation between rigs that agree on all of this, and that is kept by the
changes of single objects that calls and checks consist of.  Then it is kept by mutex calls,
by checks, and by test cases whose bodies keep it, and all of these are answered alike on
related rigs.
-/

namespace LockDiscipline

namespace Rig

variable {σ : Type}

/-- Rigs that agree on what calls and checks depend on, their sinks apart. -/
structure Akin (r r' : Rig σ) : Prop where
  handle : r'.handle = r.handle
  script : r'.script = r.script
  kind : ∀ x, (r'.context x).primitive.kind = (r.context x).primitive.kind
  bottom : ∀ x, (r'.context x).primitive.bottom = (r.context x).primitive.bottom
  observers : ∀ x, (r'.context x).observers = (r.context x).observers
  monitor : ∀ i, (r.monitor i).Like (r'.monitor i)

/-- A relation between rigs that agree on what calls and checks depend on, and which is kept
by what calls and checks do. -/
structure Simulation (S : Rig σ → Rig σ → Prop) : Prop where
  akin {r r' : Rig σ} : S r r' → r.Akin r'
  sink {r r' : Rig σ} : S r r' → r'.sink = r.sink
  setHandle {r r' : Rig σ} : S r r' → ∀ m h, S (r.setHandle m h) (r'.setHandle m h)
  setScript {r r' : Rig σ} : S r r' → ∀ n q, S (r.setScript n q) (r'.setScript n q)
  setSink {r r' : Rig σ} : S r r' → ∀ s x, S (r.setSink s x) (r'.setSink s x)
  change {r r' : Rig σ} : S r r' → ∀ i (c : Monitor.Change),
    S (r.setMonitor i (c.apply (r.monitor i))) (r'.setMonitor i (c.apply (r'.monitor i)))
  emit {r r' : Rig σ} :
    S r r' → ∀ e, (∀ s, e ≠ .logged (.enabled s)) → S (r.emit e) (r'.emit e)

namespace Simulation

variable [Sink σ] {S : Rig σ → Rig σ → Prop} {r r' : Rig σ} {i : Nat}

theorem tell (sim : Simulation S) (h : S r r') (s : Nat) (c : SinkCall) :
  S (r.tell silent s c) (r'.tell silent s c)
  := by
  have told : S (r.setSink s (Sink.receive (r.sink s) c))
      (r'.setSink s (Sink.receive (r'.sink s) c)) := by
    rw [sim.sink h]
    apply sim.setSink h
  apply sim.emit told
  simp

/-- In related rigs sinks are the same, so they answer alike. -/
theorem candid (sim : Simulation S) :
  Candid .all S
  := by
  intro r r' h s _
  rw [sim.sink h]
  exact ⟨rfl, rfl⟩

/-- A simulation bonds all objects. -/
theorem bond (sim : Simulation S) :
  Bond .all silent silent S
  := by
  have tell {r r' : Rig σ} (h : S r r') (i s : Nat) (_ : Group.all.monitor i)
      (reports : r.ReportsTo i s) (c : SinkCall) :
      S (r.tell silent s c) (r'.tell silent s c) ∧ (r.tell silent s c).ReportsTo i s :=
    ⟨sim.tell h s c, reports.held, reports.sink⟩
  constructor
  case toCoupling =>
    constructor
    case byte => exact fun h m _ => by rw [(sim.akin h).handle]
    case like => exact fun h i _ => (sim.akin h).monitor i
    case mark =>
      intro r r' h m _ s
      rw [(sim.akin h).handle]
      apply sim.setHandle h
    case change => exact fun h i _ c => sim.change h i c
    case emit => exact sim.emit
    case tell => exact tell
    case plead =>
      intro r r' h i s mem reports
      apply Coupling.plead_of_alike tell _ h mem reports
      exact fun h i s _ _ => sim.candid _ _ h s trivial
  case handle => exact fun h m _ => by rw [(sim.akin h).handle]
  case script => exact fun h n _ => by rw [(sim.akin h).script]
  case setHandle => exact fun h m _ a => sim.setHandle h m a
  case setScript => exact fun h n _ q => sim.setScript h n q
  case akin =>
    exact fun h x _ => ⟨(sim.akin h).kind x, (sim.akin h).bottom x, (sim.akin h).observers x⟩
  case owns => exact fun _ _ _ => Group.owns_all _
  case reports => exact fun _ _ _ => trivial
  case address => exact fun h s _ c => sim.tell h s c

theorem observe (sim : Simulation S) (h : S r r') (i : Nat) (op : Operation) (m : Nat) :
  S (r.observe silent i op m) (r'.observe silent i op m)
  := sim.bond.observe h trivial op trivial

theorem check (sim : Simulation S) (h : S r r') (i : Nat) :
  (r'.check silent i).1 = (r.check silent i).1
    ∧ S (r.check silent i).2 (r'.check silent i).2
  := ⟨sim.bond.answer_check sim.candid h trivial, sim.bond.check h trivial⟩

theorem call (sim : Simulation S) (h : S r r') (o : Owner) (x m : Nat) (c : Call) :
  (r'.call silent o x m c).1 = (r.call silent o x m c).1
    ∧ S (r.call silent o x m c).2 (r'.call silent o x m c).2
  := sim.bond.call h o trivial trivial c

/-! ### Test cases -/

theorem concludeCase (sim : Simulation S) (h : S r r') (i : Nat) (panic : Option Panic) :
  (r'.concludeCase silent i panic).1 = (r.concludeCase silent i panic).1
    ∧ S (r.concludeCase silent i panic).2 (r'.concludeCase silent i panic).2
  := by
  obtain ⟨concluded, answer⟩ := sim.bond.concludeCase h (i := i) trivial panic
  exact ⟨answer sim.candid, concluded⟩

/-- A test case keeps a simulation if its body does, which may answer whatever is related
by `E`.  It is enough that the rigs are related after the reset. -/
theorem runCase_of_reset {α : Type} {E : α → α → Prop}
    {body : Rig σ → (α × Option Panic) × Rig σ} (sim : Simulation S)
    (keeps : ∀ r r', S r r' → E (body r).1.1 (body r').1.1 ∧ (body r').1.2 = (body r).1.2
      ∧ S (body r).2 (body r').2)
    (reset : S (r.tell silent (r.monitor i).sink .reset)
      (r'.tell silent (r'.monitor i).sink .reset)) :
  (r'.runCase silent i body).1.1 = (r.runCase silent i body).1.1
    ∧ E (r.runCase silent i body).1.2 (r'.runCase silent i body).1.2
    ∧ S (r.runCase silent i body).2 (r'.runCase silent i body).2
  := by
  obtain ⟨answers, panic, ended⟩ := keeps _ _ reset
  obtain ⟨verdict, closed⟩ := sim.concludeCase ended i _
  simp only [Rig.runCase, panic]
  exact ⟨verdict, answers, closed⟩

theorem runCase {α : Type} {E : α → α → Prop} {body : Rig σ → (α × Option Panic) × Rig σ}
    (sim : Simulation S)
    (keeps : ∀ r r', S r r' → E (body r).1.1 (body r').1.1 ∧ (body r').1.2 = (body r).1.2
      ∧ S (body r).2 (body r').2)
    (h : S r r') (i : Nat) :
  (r'.runCase silent i body).1.1 = (r.runCase silent i body).1.1
    ∧ E (r.runCase silent i body).1.2 (r'.runCase silent i body).1.2
    ∧ S (r.runCase silent i body).2 (r'.runCase silent i body).2
  := by
  apply sim.runCase_of_reset keeps
  rw [((sim.akin h).monitor i).sink]
  apply sim.tell h

/-! ### Case records -/

variable {S : Rig CaseRecord → Rig CaseRecord → Prop} {r r' : Rig CaseRecord}

theorem number (sim : Simulation S) (h : S r r') (target : Target) :
  target.number r' = target.number r
  := by
  cases target with
  | sink s => rfl
  | monitor i => exact ((sim.akin h).monitor i).sink

theorem consult (sim : Simulation S) (h : S r r') (s : Nat) (c : SinkCall) :
  (r'.consult silent s c).1 = (r.consult silent s c).1
    ∧ S (r.consult silent s c).2 (r'.consult silent s c).2
  := by
  have told := sim.tell h s c
  cases c with
  | violation =>
    simp only [Rig.consult, askViolation, sim.sink h, true_and]
    apply told
  | verdict =>
    simp only [Rig.consult, askVerdict, sim.sink h, true_and]
    apply told
  | _ => exact ⟨rfl, told⟩

end Simulation

end Rig

end LockDiscipline
