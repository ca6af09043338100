import LockDiscipline.Proofs.Simulation
import LockDiscipline.Proofs.Strategy.Equivalence

/-!
# Test cases are isolated

A test case begins with a reset of the sink that it reports to, and ends with a check that
takes the surplus of live handles off the tally.  Two rigs that differ in how many handles
were counted so far, though not in the surplus, in what the sink holds, and in what became
visible are therefore the same to a case: after the reset they are `Alike`, being alike is a
simulation, and the steps of a case keep simulations (`Step.Confined.perform`).

Hence a case does not depend on the cases before it.  In a suite of cases, each has the
outcome that it has after the monitor was replaced by a new one, whose baseline is what is
live by then (`Rig.outcome_isolated`).
-/

namespace LockDiscipline

/-! ### The steps of a test case -/

/-- Whether a query is about handles, scripts or case records. -/
def Query.Confined : Query → Prop
  | handle _ | servedCalls _ | reached _ | failure _ => True
  | _ => False

/-- The steps of a test case: mutex calls, notices, checks, test cases inside, panics, calls
of sinks, and what can be changed and asked of scripts, records and handles. -/
inductive Step.Confined : Step → Prop
  | call (o : Owner) (x m : Nat) (c : Call) : Confined (.touch (.call o x m c))
  | notice (i m : Nat) (n : Notice) : Confined (.touch (.notice i m n))
  | check (i : Nat) : Confined (.touch (.check i))
  | runCase (i : Nat) {body : List Step} :
      (∀ step ∈ body, Confined step) → Confined (.runCase i body)
  | panic (p : Panic) : Confined (.panic p)
  | script (n : Nat) (change : ScriptChange) : Confined (.script n change)
  | tell (target : Target) (c : SinkCall) : Confined (.tell target c)
  | record (s : Nat) (change : RecordChange) : Confined (.record s change)
  | query {q : Query} : q.Confined → Confined (.query q)

theorem Step.Confined.routine {step : Step} (confined : step.Confined) :
  step.Routine
  := by
  induction confined with
  | call o x m c => apply Routine.call
  | notice i m n => apply Routine.notice
  | check i => apply Routine.check
  | runCase i _ ih => apply Routine.runCase i ih
  | panic p => apply Routine.panic
  | script n change => apply Routine.script
  | tell target c => apply Routine.tell
  | record s change => apply Routine.record
  | @query q confined =>
    apply Routine.query
    cases q with
    | handle m => trivial
    | servedCalls n => trivial
    | reached s => trivial
    | failure s => trivial
    | _ => exact confined.elim

namespace Step

variable {S : Rig CaseRecord → Rig CaseRecord → Prop}

/-- Two outcomes of a step that cannot be told apart, and whose rigs are related. -/
inductive Agree (S : Rig CaseRecord → Rig CaseRecord → Prop) :
    Except (Panic × Rig CaseRecord) Report → Except (Panic × Rig CaseRecord) Report → Prop
  | error (p : Panic) {r r' : Rig CaseRecord} : S r r' → Agree S (.error (p, r)) (.error (p, r'))
  | ok {report report' : Report} :
      report'.answers = report.answers → S report.after report'.after →
      Agree S (.ok report) (.ok report')

/-- A step without a body that is answered alike. -/
theorem Agree.plain {x x' : Answer × Rig CaseRecord} (answer : x'.1 = x.1) (after : S x.2 x'.2) :
  Agree S (.ok (.plain x)) (.ok (.plain x'))
  := by
  apply Agree.ok _ after
  rw [Report.plain, Report.plain, Report.answers, Report.answers, answer]

/-- Steps keep a simulation if each of them does, and cannot tell related rigs apart. -/
theorem performAll_agree {steps : List Step}
    (agree : ∀ step ∈ steps, ∀ r r', S r r' →
      Agree S (step.perform silent r) (step.perform silent r'))
    (r r' : Rig CaseRecord) (h : S r r') :
  Report.answersAll (performAll silent steps r').1.1
      = Report.answersAll (performAll silent steps r).1.1
    ∧ (performAll silent steps r').1.2 = (performAll silent steps r).1.2
    ∧ S (performAll silent steps r).2 (performAll silent steps r').2
  := by
  induction steps generalizing r r' with
  | nil => exact ⟨rfl, rfl, h⟩
  | cons step steps ih =>
    have first := agree step (by simp) r r' h
    have rest := ih fun step mem => agree step (by simp [mem])
    rw [performAll, performAll]
    generalize step.perform silent r = outcome at first
    generalize step.perform silent r' = outcome' at first
    cases first with
    | error p stopped => exact ⟨rfl, rfl, stopped⟩
    | ok answers after =>
      obtain ⟨later, panic, ended⟩ := rest _ _ after
      simp only [Report.answersAll, answers, later]
      exact ⟨trivial, panic, ended⟩

/-- A test case always has a report. -/
theorem perform_runCase (i : Nat) (body : List Step) (r : Rig CaseRecord) :
  (Step.runCase i body).perform silent r =
    .ok ⟨.closed (r.runCase silent i (performAll silent body)).1.1,
      (r.runCase silent i (performAll silent body)).2,
      (r.runCase silent i (performAll silent body)).1.2⟩
  := by rw [perform]

/-- The steps of a test case keep simulations, and cannot tell related rigs apart. -/
theorem Confined.perform_agree {step : Step} (confined : step.Confined)
    (sim : Rig.Simulation S) (r r' : Rig CaseRecord) (h : S r r') :
  Agree S (step.perform silent r) (step.perform silent r')
  := by
  induction confined generalizing r r' with
  | call o x m c =>
    obtain ⟨reply, called⟩ := sim.call h o x m c
    rw [perform, perform]
    exact Agree.plain (congrArg Answer.reply reply) called
  | notice i m n =>
    rw [perform, perform]
    exact Agree.plain rfl (sim.observe h i n.operation m)
  | check i =>
    obtain ⟨pending, checked⟩ := sim.check h i
    rw [perform, perform]
    exact Agree.plain (congrArg (Answer.reply ∘ Reply.pending) pending) checked
  | @runCase i body _ ih =>
    obtain ⟨verdict, answers, closed⟩ :=
      sim.runCase (E := fun a b => Report.answersAll b = Report.answersAll a)
        (performAll_agree ih) h i
    rw [perform_runCase, perform_runCase]
    apply Agree.ok _ closed
    simp only [Report.answers, verdict, answers]
  | panic p => exact Agree.error p h
  | script n change =>
    rw [perform, perform, (sim.akin h).script]
    exact Agree.plain rfl (sim.setScript h _ _)
  | tell target c =>
    obtain ⟨answer, told⟩ := sim.consult h (target.number r) c
    rw [perform, perform, sim.number h]
    exact Agree.plain answer told
  | record s change =>
    rw [perform, perform, sim.sink h]
    exact Agree.plain rfl (sim.setSink h _ _)
  | @query q confined =>
    rw [perform, perform]
    apply Agree.plain _ h
    cases q with
    | handle m => simp only [Query.answer, (sim.akin h).handle]
    | servedCalls n => simp only [Query.answer, (sim.akin h).script]
    | reached s => simp only [Query.answer, sim.sink h]
    | failure s => simp only [Query.answer, sim.sink h]
    | _ => exact confined.elim

end Step

/-! ### Rigs that are the same to a test case -/

namespace Rig

variable {r r' : Rig CaseRecord} {i x : Nat}

/-- Rigs that agree on what calls and checks depend on, except for what the sink of monitor
`i` holds. -/
structure Comparable (i : Nat) (r r' : Rig CaseRecord) : Prop extends r.Akin r' where
  others : ∀ s ≠ (r.monitor i).sink, r'.sink s = r.sink s

/-- Rigs that agree on what calls and checks depend on, and on what became visible after
`es` and `es'`. -/
structure Alike (es es' : List Effect) (r r' : Rig CaseRecord) : Prop extends r.Akin r' where
  sink : r'.sink = r.sink
  visible : ∃ new, r.transcript = es ++ new ∧ r'.transcript = es' ++ new

namespace Akin

theorem setHandle (akin : r.Akin r') (m : Nat) (h : Handle) :
  (r.setHandle m h).Akin (r'.setHandle m h)
  := { akin with handle := congrArg (·.set m h) akin.handle }

theorem setScript (akin : r.Akin r') (n : Nat) (q : Script) :
  (r.setScript n q).Akin (r'.setScript n q)
  := { akin with script := congrArg (·.set n q) akin.script }

/-- Monitors that react alike can be put in the place of others. -/
theorem setMonitor (akin : r.Akin r') {y y' : Monitor} (like : y.Like y') (i : Nat) :
  (r.setMonitor i y).Akin (r'.setMonitor i y')
  := by
  refine { akin with monitor := ?_ }
  intro j
  by_cases here : j = i
  · subst here
    simpa [Rig.setMonitor] using like
  · simpa [Rig.setMonitor, here] using akin.monitor j

end Akin

/-- Being alike is a simulation. -/
theorem simulation_alike (es es' : List Effect) :
  Simulation (Alike es es')
  := by
  constructor
  case akin => exact Alike.toAkin
  case sink => exact Alike.sink
  case setHandle => exact fun h m a => ⟨h.toAkin.setHandle m a, h.sink, h.visible⟩
  case setScript => exact fun h n q => ⟨h.toAkin.setScript n q, h.sink, h.visible⟩
  case setSink => exact fun h s c => ⟨{ h.toAkin with }, congrArg (·.set s c) h.sink, h.visible⟩
  case change =>
    exact fun h i c => ⟨h.toAkin.setMonitor ((h.monitor i).change c) i, h.sink, h.visible⟩
  case emit =>
    intro r r' h e _
    obtain ⟨new, transcript, transcript'⟩ := h.visible
    refine ⟨{ h.toAkin with }, h.sink, new ++ [e], ?_, ?_⟩
    · rw [emit, transcript, List.append_assoc]
    · rw [emit, transcript', List.append_assoc]

/-- The reset at the beginning of a case makes comparable rigs alike. -/
theorem Comparable.reset (h : r.Comparable i r') :
  Alike r.transcript r'.transcript (r.tell silent (r.monitor i).sink .reset)
    (r'.tell silent (r'.monitor i).sink .reset)
  := by
  refine ⟨{ h.toAkin with }, ?_, [.told (r.monitor i).sink .reset], rfl, ?_⟩
  · rw [(h.monitor i).sink]
    funext s
    by_cases here : s = (r.monitor i).sink
    · subst here
      simp [tell, silent, emit, setSink, Sink.receive]
    · simp [tell, silent, emit, setSink, here, h.others s here]
  · rw [(h.monitor i).sink]
    rfl

end Rig

/-! ### Outcomes -/

/-- What becomes known of a test case: what its steps are answered, the panic by which it
ends, the violation that the check finds pending, the verdict, and the failure behind it. -/
structure CaseOutcome where
  answers : List Answer
  panic : Option Panic
  pending : Option Violation
  verdict : Verdict
  failure : Option Failure

namespace Rig

variable {r r' : Rig CaseRecord} {i x : Nat}

/-- The rig that the check of a test case finds: a panic of the body was told. -/
def blame (i : Nat) (panic : Option Panic) (r : Rig CaseRecord) : Rig CaseRecord :=
  match panic with
  | some p => r.tell silent (r.monitor i).sink (.fail p.failure)
  | none => r

theorem Simulation.blame {S : Rig CaseRecord → Rig CaseRecord → Prop} (sim : Simulation S)
    (h : S r r') (i : Nat) (panic : Option Panic) :
  S (r.blame i panic) (r'.blame i panic)
  := by
  cases panic with
  | none => apply h
  | some p =>
    rw [Rig.blame, Rig.blame, ((sim.akin h).monitor i).sink]
    apply sim.tell h

/-- What becomes known of a test case of monitor `i` with the given body. -/
def outcome (i : Nat) (body : List Step) (r : Rig CaseRecord) : CaseOutcome :=
  let ran := Step.performAll silent body (r.tell silent (r.monitor i).sink .reset)
  let run := r.runCase silent i (Step.performAll silent body)
  { answers := Report.answersAll ran.1.1
    panic := ran.1.2
    pending := ((ran.2.blame i ran.1.2).check silent i).1
    verdict := run.1.1
    failure := (run.2.sink (r.monitor i).sink).failure }

/-- What becomes known of test cases that run one after another, each as it would be if
`ready` were done before it. -/
def outcomes (i : Nat) (ready : Rig CaseRecord → Rig CaseRecord) :
    List (List Step) → Rig CaseRecord → List CaseOutcome
  | [], _ => []
  | body :: cases, r =>
    (ready r).outcome i body
      :: outcomes i ready cases (r.runCase silent i (Step.performAll silent body)).2

/-- The verdicts are what a session reports of the cases. -/
theorem answers_performAll_runCase (i : Nat) (cases : List (List Step)) (r : Rig CaseRecord) :
  (Step.performAll silent (cases.map (.runCase i)) r).1.1.map Report.answer
    = (r.outcomes i id cases).map fun o => .closed o.verdict
  := by
  induction cases generalizing r with
  | nil => rfl
  | cons body cases ih =>
    rw [List.map_cons, Step.performAll, Step.perform_runCase, outcomes, List.map_cons]
    simp only [List.map_cons, ih]
    rfl

/-- Comparable rigs give a test case the same outcome, and are alike after it. -/
theorem Comparable.outcome (h : r.Comparable i r') {body : List Step}
    (confined : ∀ step ∈ body, step.Confined) :
  r'.outcome i body = r.outcome i body
    ∧ Alike r.transcript r'.transcript (r.runCase silent i (Step.performAll silent body)).2
      (r'.runCase silent i (Step.performAll silent body)).2
  := by
  have sim := simulation_alike r.transcript r'.transcript
  have agree := Step.performAll_agree fun step mem => (confined step mem).perform_agree sim
  obtain ⟨answers, panic, ended⟩ := agree _ _ h.reset
  obtain ⟨verdict, -, closed⟩ := sim.runCase_of_reset
    (E := fun a b => Report.answersAll b = Report.answersAll a) agree h.reset
  obtain ⟨pending, -⟩ := sim.check (sim.blame ended i _) i
  constructor
  · rw [Rig.outcome, Rig.outcome, answers, panic, pending, verdict, closed.sink,
      (h.monitor i).sink]
  · apply closed

/-- After a test case there is no surplus of live handles. -/
theorem leaked_runCase {α : Type} {body : Rig CaseRecord → (α × Option Panic) × Rig CaseRecord}
    (free : (r.monitor i).tally.held = false) (keeps : ∀ r, Keeps r (body r).2) :
  ((r.runCase silent i body).2.monitor i).tally.value.leaked = 0
  := by
  have checked (q : Rig CaseRecord) (free : (q.monitor i).tally.held = false) :
      ((q.check silent i).2.monitor i).tally.value.leaked = 0 := by
    rw [check_of_free free, closeCase_eq]
    simp [Monitor.adjust, Guard.put]
  have free : ((body (r.tell silent (r.monitor i).sink .reset)).2.monitor i).tally.held = false :=
    ((keeps _).held i).trans free
  rw [runCase]
  generalize body _ = ended at free
  obtain ⟨⟨a, panic⟩, q⟩ := ended
  cases panic with
  | none => exact checked q free
  | some p => exact checked (q.tell silent (q.monitor i).sink (.fail p.failure)) free

/-! ### A new monitor -/

/-- The rig with monitor `i` disabled on context `x`, and a new one with the same settings
and an empty case record in its place. -/
def recreate (i x : Nat) (r : Rig CaseRecord) : Rig CaseRecord :=
  let old := r.monitor i
  ((r.disable i x).2.setMonitor i { sink := old.sink, settings := old.settings }).setSink
    old.sink .fresh

/-- The rig with a new monitor `i` enabled on context `x`, whose baseline are the handles
that are live. -/
def renew (i x : Nat) (r : Rig CaseRecord) : Rig CaseRecord :=
  ((r.recreate i x).enable i x).2.rebase i

/-- Enabling a monitor again makes calls of a context what they were. -/
theorem context_enable_congr (inactive : (r.monitor i).replaced = none)
    (inactive' : (r'.monitor i).replaced = none) (context : r'.context = r.context)
    (strategy : (r'.monitor i).settings.strategy = (r.monitor i).settings.strategy) (y : Nat) :
  let c := (r.enable i x).2.context y
  let c' := (r'.enable i x).2.context y
  c'.primitive.kind = c.primitive.kind ∧ c'.primitive.bottom = c.primitive.bottom
    ∧ c'.observers = c.observers
  := by
  cases chosen : (r.monitor i).settings.strategy with
  | substitute =>
    rw [enable_of_substitute inactive chosen,
      enable_of_substitute inactive' (strategy.trans chosen), context]
    by_cases here : y = x
    · subst here
      simp [Primitive.kind, Primitive.bottom, Context.observers, Primitive.observers,
        Primitive.monitors]
    · simp [here]
  | hooks =>
    rw [enable_of_hooks inactive chosen, enable_of_hooks inactive' (strategy.trans chosen),
      context]
    exact ⟨rfl, rfl, rfl⟩

/-- A new monitor finds the contexts that there were before the old one was enabled. -/
theorem recreate_eq (inactive : (r.monitor i).replaced = none)
    (keeps : (r.enable i x).2.Keeps r') :
  ∃ transcript, r'.recreate i x =
    { r' with
      context := r.context
      monitor := r'.monitor.set i
        { sink := (r'.monitor i).sink, settings := (r'.monitor i).settings }
      sink := r'.sink.set (r'.monitor i).sink .fresh
      transcript := transcript }
  := by
  obtain ⟨_, old, d, primitives, s, enabled⟩ := enable_eq (x := x) inactive
  have active : (r'.monitor i).replaced = some old := by
    rw [keeps.replaced, enabled]
    simp
  obtain ⟨context, disabled⟩ := disable_of_active (x := x) active
  obtain ⟨-, restored⟩ := disable_of_enabled inactive keeps.context (keeps.replaced i)
  rw [disabled] at restored
  obtain rfl : context = r.context := restored
  use r'.transcript ++ [.logged .disabled]
  simp [recreate, disabled, setMonitor, setSink]

/-- A monitor without a surplus is comparable to a new one, whatever has happened since it
was enabled. -/
theorem comparable_renew (inactive : (r.monitor i).replaced = none)
    (keeps : (r.enable i x).2.Keeps r') (free : (r'.monitor i).tally.held = false)
    (balanced : (r'.monitor i).tally.value.leaked = 0) :
  r'.Comparable i (r'.renew i x)
  := by
  obtain ⟨transcript, created⟩ := recreate_eq inactive keeps
  have fresh : ((r'.recreate i x).monitor i).replaced = none := by
    rw [created]
    simp
  have context : (r'.recreate i x).context = r.context := by rw [created]
  have strategy : ((r'.recreate i x).monitor i).settings.strategy
      = (r.monitor i).settings.strategy := by
    obtain ⟨_, _, _, _, _, enabled⟩ := enable_eq (x := x) inactive
    simp [created, keeps.settings i, enabled]
  have contexts := context_enable_congr (x := x) inactive fresh context strategy
  simp only [← keeps.context] at contexts
  obtain ⟨_, old, d, primitives, s, enabled⟩ := enable_eq (x := x) fresh
  have others {j : Nat} (other : j ≠ i) : (r'.renew i x).monitor j = r'.monitor j := by
    rw [renew, enabled, created]
    simp [rebase, adjust, log, emit, setMonitor, other]
  have new : (r'.renew i x).monitor i =
      { sink := (r'.monitor i).sink, settings := (r'.monitor i).settings,
        replaced := some old, decorators := d } := by
    rw [renew, enabled, created]
    simp [rebase, adjust, log, emit, setMonitor, Monitor.adjust, Guard.put, Tally.rebase]
  constructor
  · constructor
    case kind => exact fun y => (contexts y).1
    case bottom => exact fun y => (contexts y).2.1
    case observers => exact fun y => (contexts y).2.2
    case handle =>
      rw [renew, enabled, created]
      rfl
    case script =>
      rw [renew, enabled, created]
      rfl
    case monitor =>
      intro j
      by_cases here : j = i
      · subst here
        rw [new]
        exact ⟨rfl, rfl, rfl, free.symm, balanced.symm⟩
      · rw [others here]
        apply Monitor.Like.refl
  · intro s' other
    rw [renew, enabled, created]
    exact Family.set_of_ne _ _ other

/-- Test cases that run one after another have the outcomes that they have with a new monitor
for each. -/
theorem outcomes_renew (inactive : (r.monitor i).replaced = none)
    (keeps : (r.enable i x).2.Keeps r') (free : (r'.monitor i).tally.held = false)
    (balanced : (r'.monitor i).tally.value.leaked = 0) {cases : List (List Step)}
    (confined : ∀ body ∈ cases, ∀ step ∈ body, step.Confined) :
  r'.outcomes i (renew i x) cases = r'.outcomes i id cases
  := by
  induction cases generalizing r' with
  | nil => rfl
  | cons body cases ih =>
    have steps := confined body (by simp)
    have body_keeps : ∀ r : Rig CaseRecord, r.Keeps (Step.performAll silent body r).2 :=
      Step.performAll_keeps fun step mem => (steps step mem).routine.keeps
    have after := Keeps.runCase body_keeps i (r := r')
    obtain ⟨same, -⟩ := (comparable_renew inactive keeps free balanced).outcome steps
    rw [outcomes, outcomes, same]
    congr 1
    apply ih (keeps.trans after)
    · rw [after.held, free]
    · apply leaked_runCase free body_keeps
    · exact fun body mem => confined body (by simp [mem])

/-- Test cases are isolated.  Two rigs that differ in what monitor `i` has counted, though
not in its surplus of live handles, in what its sink holds and in what became visible give a
test case the same outcome, and after it they have the same handles, scripts and sinks, no
surplus, and the same became visible.  In particular, whatever preceded the baseline, each of
any number of test cases that run one after another has the outcome that it has with a new
monitor, and this is what a session reports. -/
theorem outcome_isolated (i : Nat) :
  (∀ r r' : Rig CaseRecord, r.Comparable i r' → (r.monitor i).tally.held = false →
    ∀ body : List Step, (∀ step ∈ body, step.Confined) →
      let after := (r.runCase silent i (Step.performAll silent body)).2
      let after' := (r'.runCase silent i (Step.performAll silent body)).2
      r'.outcome i body = r.outcome i body
        ∧ after'.handle = after.handle ∧ after'.script = after.script ∧ after'.sink = after.sink
        ∧ (after.monitor i).tally.value.leaked = 0 ∧ (after'.monitor i).tally.value.leaked = 0
        ∧ ∃ new, after.transcript = r.transcript ++ new
          ∧ after'.transcript = r'.transcript ++ new)
    ∧ ∀ (r : Rig CaseRecord) (x : Nat), (r.monitor i).replaced = none →
      (r.monitor i).tally.held = false →
      ∀ setup : List Step, (∀ step ∈ setup, step.Routine) →
      ∀ cases : List (List Step), (∀ body ∈ cases, ∀ step ∈ body, step.Confined) →
        let start := (Step.performAll silent setup (r.enable i x).2).2.rebase i
        let run := Step.performAll silent (cases.map (.runCase i)) start
        start.outcomes i (renew i x) cases = start.outcomes i id cases
          ∧ run.1.1.map Report.answer
            = (start.outcomes i (renew i x) cases).map fun o => .closed o.verdict
  := by
  constructor
  · intro r r' comparable free body confined after after'
    obtain ⟨same, alike⟩ := comparable.outcome confined
    have balanced : (after.monitor i).tally.value.leaked = 0 :=
      leaked_runCase free (Step.performAll_keeps fun step mem => (confined step mem).routine.keeps)
    have balanced' : (after'.monitor i).tally.value.leaked = 0 :=
      ((alike.monitor i).leaked).trans balanced
    exact ⟨same, alike.handle, alike.script, alike.sink, balanced, balanced', alike.visible⟩
  · intro r x inactive free setup routine cases confined start run
    have prepared : (r.enable i x).2.Keeps (Step.performAll silent setup (r.enable i x).2).2 :=
      Step.performAll_keeps (fun step mem => (routine step mem).keeps) _
    have keeps : (r.enable i x).2.Keeps start := prepared.trans (Keeps.rebase i)
    have guard : (start.monitor i).tally.held = false := by
      obtain ⟨_, _, _, _, _, enabled⟩ := enable_eq (x := x) inactive
      rw [keeps.held, enabled]
      simpa using free
    have balanced : (start.monitor i).tally.value.leaked = 0 := by
      simp [start, rebase, adjust, log, emit, setMonitor, Monitor.adjust, Guard.put]
    have same := outcomes_renew inactive keeps guard balanced confined
    use same
    rw [same]
    apply answers_performAll_runCase

/-- A rig whose monitor has counted seven handles, all of them expected, and whose sink holds
what became of an earlier case. -/
def worn : Rig CaseRecord :=
  ((site.enable 0 0).2.adjust 0 fun _ => ⟨7, 7⟩).setSink 0
    { verdict := .failed, failure := some usageFailure, violation := some (.missingFree 3) }

theorem comparable_worn :
  (site.enable 0 0).2.Comparable 0 worn
  := by
  constructor
  · constructor
    case monitor =>
      intro j
      by_cases here : j = 0
      · subst here
        exact ⟨rfl, rfl, rfl, rfl, rfl⟩
      · have same : worn.monitor j = (site.enable 0 0).2.monitor j := Family.set_of_ne _ _ here
        rw [same]
        apply Monitor.Like.refl
    all_goals
      intros
      rfl
  · intro s other
    exact Family.set_of_ne _ _ other

/-- A handle that stays live, initialised before the baseline is set. -/
def furniture : List Step := [.touch (.call (.worker 0) 0 0 .init)]

/-- A case that leaks a handle and panics, and one that uses the handle as intended. -/
def troubles : List (List Step) :=
  [[.touch (.call (.worker 0) 0 1 .init), .panic (.text "unexpected")],
    [.touch (.call (.worker 0) 0 1 .lock), .touch (.call (.worker 0) 0 1 .unlock),
      .tell (.monitor 0) .violation]]

theorem confined_of_mem_troubles :
  ∀ body ∈ troubles, ∀ step ∈ body, step.Confined
  := by
  simp only [troubles, List.forall_mem_cons]
  refine ⟨⟨.call _ _ _ _, .panic _, nofun⟩, ⟨.call _ _ _ _, .call _ _ _ _, .tell _ _, ?_⟩, nofun⟩
  nofun

/-- The second case passes, though the first has failed, and both have the outcomes that they
have with new monitors. -/
theorem outcome_isolated_troubles :
  let start := (Step.performAll silent furniture (site.enable 0 0).2).2.rebase 0
  (∀ body ∈ troubles, worn.outcome 0 body = (site.enable 0 0).2.outcome 0 body)
    ∧ start.outcomes 0 (renew 0 0) troubles = start.outcomes 0 id troubles
    ∧ (start.outcomes 0 id troubles).map CaseOutcome.verdict = [.failed, .passed]
    ∧ (start.outcomes 0 id troubles).map CaseOutcome.pending = [some (.missingFree 1), none]
  := by
  obtain ⟨two, suite⟩ := outcome_isolated 0
  have furnished : ∀ step ∈ furniture, step.Routine := by
    simp only [furniture, List.forall_mem_cons]
    exact ⟨.call _ _ _ _, nofun⟩
  obtain ⟨same, -⟩ := suite site 0 rfl rfl furniture furnished troubles confined_of_mem_troubles
  refine ⟨?_, same, ?_, ?_⟩
  · intro body mem
    obtain ⟨outcome, -⟩ := two _ _ comparable_worn rfl body (confined_of_mem_troubles body mem)
    apply outcome
  · decide +kernel
  · decide +kernel

end Rig

end LockDiscipline
