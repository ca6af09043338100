import LockDiscipline.Proofs.Observation
import LockDiscipline.Proofs.Work

/-!
# Sinks make no difference

Two rigs have the same objects, but sinks of any two kinds, which answer as they like
(`Rig.Disguised`).  Works leave them so (`Rig.linked_disguised`), since what a check does depends
on what its sink answers only by whether the sink is asked for a verdict and told of a failure
(`Sink.plea`).  Everything else is the same: what happens to handles, scripts, contexts and
monitors, what is logged and echoed, and of which violations, resets and ends of cases sinks are
told (`Rig.performAll_withSinks`).

With any sink a check under a free guard goes like this (`Rig.closeCase_eq_parley`).  The surplus
is recorded, if there is one; the sink is asked for a pending violation, which is the answer of
the check; if there is one, the sink is asked for the verdict, and the test case is failed unless
it has failed already; last, the sink is told to clear.  The tally is settled whatever the sink
says.  A test case begins with a reset and ends with a check and the verdict
(`Rig.runCase_talk`).
-/

namespace LockDiscipline

namespace Effect

/-- Whether an effect does not depend on what sinks are asked. -/
def unasked : Effect → Bool
  | told _ .violation | told _ .verdict | told _ (.fail _) => false
  | _ => true

/-- The call of a sink. -/
def told? : Effect → Option (Nat × SinkCall)
  | told s c => some (s, c)
  | _ => none

end Effect

/-- What is logged does not depend on what sinks are asked. -/
theorem events_filter_unasked (es : List Effect) :
  events (es.filter Effect.unasked) = events es
  := by
  rw [events, events, List.filterMap_filter]
  congr 1
  funext e
  cases e with
  | told s c => simp [Effect.event?]
  | _ => rfl

/-- What is echoed does not depend on what sinks are asked. -/
theorem echo_filter_unasked (es : List Effect) :
  echo (es.filter Effect.unasked) = echo es
  := by
  rw [echo, echo, List.filterMap_filter]
  congr 2
  funext e
  cases e with
  | told s c => simp [Effect.echo?]
  | _ => rfl

theorem filter_unasked_plea {σ : Type} [Sink σ] (s : Nat) (a : σ) :
  ((Sink.plea a).map (Effect.told s)).filter Effect.unasked = []
  := by
  rw [Sink.plea]
  split
  · split
    · rfl
    · rfl
  · rfl

namespace Rig

variable {σ τ : Type}

/-- The rig with other sinks. -/
def withSinks (r : Rig σ) (sinks : Family τ) : Rig τ := { r with sink := sinks }

/-- Rigs that are the same, but for their sinks and what these were asked and told of it.  Both
transcripts begin with `es`. -/
structure Disguised (es : List Effect) (r : Rig σ) (r' : Rig τ) : Prop where
  handle : r'.handle = r.handle
  script : r'.script = r.script
  context : r'.context = r.context
  monitor : r'.monitor = r.monitor
  visible : ∃ new new', r.transcript = es ++ new ∧ r'.transcript = es ++ new'
    ∧ new'.filter Effect.unasked = new.filter Effect.unasked

namespace Disguised

variable {es : List Effect} {r : Rig σ} {r' : Rig τ}

theorem refl (r : Rig σ) (sinks : Family τ) :
  Disguised r.transcript r (r.withSinks sinks)
  := ⟨rfl, rfl, rfl, rfl, [], [], (List.append_nil _).symm, (List.append_nil _).symm, rfl⟩

/-- More may become visible, as long as it is the same but for what sinks are asked. -/
theorem append {sink : Family σ} {sink' : Family τ} {more more' : List Effect}
    (h : Disguised es r r') (same : more'.filter Effect.unasked = more.filter Effect.unasked) :
  Disguised es { r with sink := sink, transcript := r.transcript ++ more }
    { r' with sink := sink', transcript := r'.transcript ++ more' }
  := by
  obtain ⟨new, new', before, before', visible⟩ := h.visible
  refine ⟨h.handle, h.script, h.context, h.monitor, new ++ more, new' ++ more', ?_, ?_, ?_⟩
  · simp only [before, List.append_assoc]
  · simp only [before', List.append_assoc]
  · rw [List.filter_append, List.filter_append, visible, same]

end Disguised

variable [Sink σ] [Sink τ] {r : Rig σ} {i : Nat}

/-! ### Works -/

/-- Works cannot tell rigs apart that differ in their sinks. -/
theorem linked_disguised (es : List Effect) :
  Linked .all (silent (σ := σ)) (silent (σ := τ)) (Disguised es)
  := by
  constructor
  case handle => exact fun h m _ => congrFun h.handle m
  case script => exact fun h n _ => congrFun h.script n
  case context => exact fun h x _ => congrFun h.context x
  case monitor => exact fun h i _ => congrFun h.monitor i
  case owns => exact fun _ _ _ => Group.owns_all _
  case admits => exact fun _ _ _ => Group.admits_all _
  case setHandle => exact fun h m _ a => { h with handle := congrArg (·.set m a) h.handle }
  case setScript => exact fun h n _ q => { h with script := congrArg (·.set n q) h.script }
  case setContext => exact fun h x _ c _ => { h with context := congrArg (·.set x c) h.context }
  case setMonitor => exact fun h i _ y _ _ => { h with monitor := congrArg (·.set i y) h.monitor }
  case addPrimitive => exact fun h _ => { h with }
  case emit => exact fun h e => h.append rfl
  case address => exact fun h s _ c => h.append rfl
  case stays => exact fun _ _ _ _ reports _ => ⟨reports.held, reports.sink⟩
  case plead =>
    intro r r' h i s _ reports
    rw [plead_eq, plead_eq]
    refine ⟨h.append ?_, reports.held, reports.sink⟩
    rw [filter_unasked_plea, filter_unasked_plea]

/-- No work changes the sink that a monitor reports to. -/
theorem sink_performAll (r : Rig σ) (ws : List Work) (i : Nat) :
  ((Work.performAll silent r ws).2.monitor i).sink = (r.monitor i).sink
  := by
  have linked : Linked .all silent silent fun q q' : Rig σ =>
      q' = q ∧ ∀ j, (q.monitor j).sink = (r.monitor j).sink := by
    constructor
    case handle => exact fun h _ _ => h.1 ▸ rfl
    case script => exact fun h _ _ => h.1 ▸ rfl
    case context => exact fun h _ _ => h.1 ▸ rfl
    case monitor => exact fun h _ _ => h.1 ▸ rfl
    case owns => exact fun _ _ _ => Group.owns_all _
    case admits => exact fun _ _ _ => Group.admits_all _
    case setHandle => exact fun h _ _ _ => ⟨h.1 ▸ rfl, h.2⟩
    case setScript => exact fun h _ _ _ => ⟨h.1 ▸ rfl, h.2⟩
    case setContext => exact fun h _ _ _ _ => ⟨h.1 ▸ rfl, h.2⟩
    case setMonitor =>
      rintro q _ ⟨rfl, reports⟩ i _ y sink _
      refine ⟨rfl, ?_⟩
      intro j
      by_cases here : j = i
      · subst here
        simp [setMonitor, sink, reports]
      · simp [setMonitor, here, reports]
    case addPrimitive => exact fun h _ => ⟨h.1 ▸ rfl, h.2⟩
    case emit => exact fun h _ => ⟨h.1 ▸ rfl, h.2⟩
    case address => exact fun h _ _ _ => ⟨h.1 ▸ rfl, h.2⟩
    case stays => exact fun _ _ _ _ reports _ => ⟨reports.held, reports.sink⟩
    case plead =>
      rintro q _ ⟨rfl, reports⟩ i s _ stays
      rw [plead_eq]
      exact ⟨⟨rfl, reports⟩, stays.held, stays.sink⟩
  obtain ⟨⟨-, reports⟩, -⟩ := linked.performAll (r := r) ⟨rfl, fun _ => rfl⟩
    fun w (_ : w ∈ ws) => Group.covers_all w
  exact reports i

/-! ### Checks and test cases -/

/-- No other sink is called by a check. -/
theorem told_parley (y : Monitor) (a : σ) :
  (y.parley a).filterMap Effect.told?
    = (Sink.inquiry a y.tally.value.leaked).map (Prod.mk y.sink)
  := by
  have pairs (cs : List SinkCall) :
      (cs.map (Effect.told y.sink)).filterMap Effect.told? = cs.map (Prod.mk y.sink) := by
    induction cs with
    | nil => rfl
    | cons c cs ih => simpa [Effect.told?] using ih
  have surplus : y.surplus.filterMap Effect.told?
      = (Sink.notes y.tally.value.leaked).map (Prod.mk y.sink) := by
    rw [Monitor.surplus, Sink.notes]
    by_cases balanced : y.tally.value.leaked = 0
    · simp [balanced]
    · by_cases echoes : y.settings.echo = true
      · simp only [balanced, Monitor.echoes, echoes, ↓reduceIte]
        rfl
      · simp only [balanced, Monitor.echoes, echoes, Bool.false_eq_true, ↓reduceIte]
        rfl
  rw [Monitor.parley, List.filterMap_append, List.filterMap_append, surplus, pairs, Sink.inquiry,
    List.map_append, List.map_append]
  rfl

/-- Sink `s` is told of the panic that ended a body, if one did. -/
def tellPanic (s : Nat) (panic : Option Panic) (r : Rig σ) : Rig σ :=
  match panic with
  | some p => r.tell silent s (.fail p.failure)
  | none => r

/-- A test case resets its sink, does its body, tells the sink of a panic, checks, and ends with
the verdict of the sink. -/
theorem runCase_talk (r : Rig σ) (i : Nat) (body : List Work) (panic : Option Panic) :
  let s := (r.monitor i).sink
  let ran := Work.performAll silent (r.tell silent s .reset) body
  let ended := ((ran.2.tellPanic s panic).check silent i).2
  r.runCase silent i (fun r =>
      (((Work.performAll silent r body).1, panic), (Work.performAll silent r body).2))
    = ((Sink.verdict (ended.sink s), ran.1), ended.tell silent s .verdict)
  := by
  intro s ran ended
  have same : (ran.2.monitor i).sink = s := sink_performAll (r.tell silent s .reset) body i
  have concluded : ran.2.concludeCase silent i panic
      = (Sink.verdict (ended.sink s), ended.tell silent s .verdict) := by
    rw [Bond.concludeCase_eq, same]
    rfl
  calc r.runCase silent i (fun r =>
        (((Work.performAll silent r body).1, panic), (Work.performAll silent r body).2))
      = (((ran.2.concludeCase silent i panic).1, ran.1), (ran.2.concludeCase silent i panic).2) :=
        rfl
    _ = ((Sink.verdict (ended.sink s), ran.1), ended.tell silent s .verdict) := by rw [concluded]

/-- Sinks make no difference.  Whatever two families of sinks are, and however they answer, works
are answered alike unless they ask a sink, they come to the same handles, scripts, contexts and
monitors, and the same becomes visible, but for what sinks are asked and whether they are told of
a failure.

With any sink, a check under a free guard calls the sink of its monitor and no other.  The answer
is the violation that the sink gives after a surplus is recorded; the test case is failed exactly
if there is one and the verdict after that is no failure; the sink is told to clear last, and the
tally is settled.  A test case resets the sink before its body, tells it of a panic, checks, and
ends with the verdict of the sink, which is its answer; so does a test case among works. -/
theorem performAll_withSinks (r : Rig σ) :
  (∀ (sinks : Family τ) (ws : List Work),
      let run := Work.performAll silent r ws
      let run' := Work.performAll silent (r.withSinks sinks) ws
      Work.settled ws run'.1 = Work.settled ws run.1
        ∧ run'.2.handle = run.2.handle ∧ run'.2.script = run.2.script
        ∧ run'.2.context = run.2.context ∧ run'.2.monitor = run.2.monitor
        ∧ ∃ new new', run.2.transcript = r.transcript ++ new
          ∧ run'.2.transcript = r.transcript ++ new'
          ∧ new'.filter Effect.unasked = new.filter Effect.unasked
          ∧ events new' = events new ∧ echo new' = echo new)
    ∧ (∀ i, (r.monitor i).tally.held = false →
      let s := (r.monitor i).sink
      let leaked := (r.monitor i).tally.value.leaked
      let after := r.check silent i
      after.1 = Sink.violation (Sink.receiveAll (r.sink s) (Sink.notes leaked))
        ∧ (after.2.monitor i).tally.value = (r.monitor i).tally.value.settle
        ∧ ∃ new, after.2.transcript = r.transcript ++ new
          ∧ new.filterMap Effect.told? = (Sink.inquiry (r.sink s) leaked).map (Prod.mk s))
    ∧ ∀ (i : Nat) (body : List Work) (panic : Option Panic),
      let s := (r.monitor i).sink
      let ran := Work.performAll silent (r.tell silent s .reset) body
      let ended := ((ran.2.tellPanic s panic).check silent i).2
      r.runCase silent i (fun r =>
          (((Work.performAll silent r body).1, panic), (Work.performAll silent r body).2))
        = ((Sink.verdict (ended.sink s), ran.1), ended.tell silent s .verdict)
      ∧ Work.performAll silent r (Work.case i body panic)
        = (.reply .done :: (ran.1 ++ [.verdict (Sink.verdict (ended.sink s))]),
          ended.tell silent s .verdict)
  := by
  refine ⟨?_, ?_, ?_⟩
  · intro sinks ws run run'
    obtain ⟨disguised, answers⟩ := (linked_disguised r.transcript).performAll
      (Disguised.refl r sinks) fun w (_ : w ∈ ws) => Group.covers_all w
    obtain ⟨new, new', grown, grown', same⟩ := disguised.visible
    refine ⟨answers, disguised.handle, disguised.script, disguised.context, disguised.monitor,
      new, new', grown, grown', same, ?_, ?_⟩
    · rw [← events_filter_unasked, same, events_filter_unasked]
    · rw [← echo_filter_unasked, same, echo_filter_unasked]
  · intro i free s leaked after
    have checked : after = _ := (check_of_free free).trans closeCase_eq_parley
    rw [checked]
    refine ⟨rfl, ?_, _, rfl, told_parley _ _⟩
    simp [Monitor.adjust, Guard.put]
  · intro i body panic s ran ended
    have talk := runCase_talk r i body panic
    refine ⟨talk, ?_⟩
    rw [Work.performAll_case, talk]

/-- A sink that counts its calls, and gives another answer each time. -/
structure Fickle where
  calls : Nat
  deriving DecidableEq

instance : Sink Fickle where
  receive a _ := ⟨a.calls + 1⟩
  violation a := if a.calls % 2 = 0 then none else some .doubleFree
  verdict a := if a.calls % 2 = 0 then .passed else .failed

/-- A rig with native contexts, and monitors that report to a sink of their own. -/
def parlour : Rig CaseRecord where
  handle _ := {}
  script _ := {}
  context _ := { primitive := .bare 0 .native }
  monitor i := { sink := i }
  sink _ := .fresh
  slot _ := {}
  primitives := []
  started := 0
  transcript := []

/-- A test case that frees a handle twice, leaks another one, and panics. -/
def mishap : List Work :=
  .enable 0 0 :: Work.case 0
    [.call (.worker 0) 0 0 .init, .call (.worker 0) 0 0 .free, .call (.worker 0) 0 0 .free,
      .call (.worker 0) 0 1 .init, .call (.worker 0) 0 1 .lock]
    (some .other)

/-- The verdicts differ, and nothing else. -/
theorem performAll_withSinks_fickle :
  let run := Work.performAll silent parlour mishap
  let run' := Work.performAll silent (parlour.withSinks fun _ => Fickle.mk 0) mishap
  run.1.getLast? = some (.verdict .failed)
    ∧ run'.1.getLast? = some (.verdict .passed)
    ∧ Work.settled mishap run'.1 = Work.settled mishap run.1
    ∧ run'.2.handle = run.2.handle
    ∧ (∃ new new', run.2.transcript = new ∧ run'.2.transcript = new' ∧ events new' = events new)
    ∧ ∃ new, (run'.2.check silent 0).2.transcript = run'.2.transcript ++ new
      ∧ new.filterMap Effect.told?
        = [(0, .violation), (0, .verdict), (0, .fail usageFailure), (0, .clear)]
  := by
  intro run run'
  obtain ⟨same, -, -⟩ := performAll_withSinks parlour (τ := Fickle)
  obtain ⟨answers, handle, -, -, -, new, new', grown, grown', -, logged, -⟩ :=
    same (fun _ => ⟨0⟩) mishap
  obtain ⟨-, checks, -⟩ := performAll_withSinks run'.2 (τ := CaseRecord)
  obtain ⟨-, -, more, checked, told⟩ := checks 0 (by decide +kernel)
  refine ⟨by decide +kernel, by decide +kernel, answers, handle, ⟨new, new', grown, grown', logged⟩,
    more, checked, told.trans ?_⟩
  decide +kernel

end Rig

end LockDiscipline
