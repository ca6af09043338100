import LockDiscipline.Contest
import LockDiscipline.Proofs.Frame
import LockDiscipline.Proofs.Strategy.Blur

/-!
# The strategies are equivalent

A step of a session is routine if it neither enables or disables monitors nor changes
contexts, and does not ask for what was enabled where.  Routine steps commute with blurring
(`Step.Routine.perform_blur`), since a call comes to the same whichever of its layers tells a
monitor (`Rig.call_eq_serve`), and two rigs on which a monitor was enabled by different
strategies are the same when they are blurred (`Rig.blur_enable`).  Hence all routine steps
are answered alike on both, and leave both alike.  As routine steps keep contexts
(`Step.Routine.keeps`), both are restored when the monitor is disabled.
-/

namespace LockDiscipline

/-- Whether a query does not ask for what was enabled where. -/
def Query.Neutral : Query → Prop
  | primitive _ | hook _ | settings _ => False
  | _ => True

/-- The steps of a session between enabling and disabling a monitor: mutex calls, notices,
checks and baselines, test cases of such steps, panics, calls of sinks, and what surrounds
them. -/
inductive Step.Routine : Step → Prop
  | call (o : Owner) (x m : Nat) (c : Call) : Routine (.touch (.call o x m c))
  | notice (i m : Nat) (n : Notice) : Routine (.touch (.notice i m n))
  | check (i : Nat) : Routine (.touch (.check i))
  | rebase (i : Nat) : Routine (.rebase i)
  | runCase (i : Nat) {body : List Step} :
      (∀ step ∈ body, Routine step) → Routine (.runCase i body)
  | panic (p : Panic) : Routine (.panic p)
  | script (n : Nat) (change : ScriptChange) : Routine (.script n change)
  | tell (target : Target) (c : SinkCall) : Routine (.tell target c)
  | record (s : Nat) (change : RecordChange) : Routine (.record s change)
  | query {q : Query} : q.Neutral → Routine (.query q)

theorem Query.Neutral.answer_blur {q : Query} (neutral : q.Neutral) (r : Rig CaseRecord) :
  q.answer r.blur = q.answer r
  := by
  cases q with
  | primitive x => exact neutral.elim
  | hook x => exact neutral.elim
  | settings i => exact neutral.elim
  | _ => rfl

theorem Target.number_blur (target : Target) (r : Rig CaseRecord) :
  target.number r.blur = target.number r
  := Rig.simulation_blur.number rfl target

theorem Rig.blur_consult (r : Rig CaseRecord) (s : Nat) (c : SinkCall) :
  r.blur.consult silent s c = ((r.consult silent s c).1, (r.consult silent s c).2.blur)
  := by
  obtain ⟨answer, told⟩ := simulation_blur.consult (r := r) rfl s c
  exact Prod.ext answer told

namespace Report

mutual

/-- The report with all of its rigs blurred. -/
def blur : Report → Report
  | ⟨answer, after, body⟩ => ⟨answer, after.blur, blurAll body⟩

/-- Reports with all of their rigs blurred. -/
def blurAll : List Report → List Report
  | [] => []
  | report :: reports => report.blur :: blurAll reports

end

mutual

/-- The answers of a step and of the steps of its body, in the order in which they are
given. -/
def answers : Report → List Answer
  | ⟨answer, _, body⟩ => answersAll body ++ [answer]

/-- The answers of steps and of the steps of their bodies. -/
def answersAll : List Report → List Answer
  | [] => []
  | report :: reports => report.answers ++ answersAll reports

end

mutual

theorem answers_blur (report : Report) :
  report.blur.answers = report.answers
  := by
  obtain ⟨answer, after, body⟩ := report
  rw [blur, answers, answers, answersAll_blurAll]

/-- Blurring changes no answer. -/
theorem answersAll_blurAll (reports : List Report) :
  answersAll (blurAll reports) = answersAll reports
  := by
  cases reports with
  | nil => rfl
  | cons report reports =>
    rw [blurAll, answersAll, answersAll, answers_blur, answersAll_blurAll]

end

end Report

namespace Step

/-- What a step comes to, with its rigs blurred. -/
def blurOutcome :
    Except (Panic × Rig CaseRecord) Report → Except (Panic × Rig CaseRecord) Report
  | .error (p, r) => .error (p, r.blur)
  | .ok report => .ok report.blur

/-- Steps commute with blurring if each of them does. -/
theorem performAll_blur {steps : List Step}
    (commutes : ∀ step ∈ steps, ∀ r,
      step.perform silent r.blur = blurOutcome (step.perform silent r))
    (r : Rig CaseRecord) :
  performAll silent steps r.blur =
    ((Report.blurAll (performAll silent steps r).1.1, (performAll silent steps r).1.2),
      (performAll silent steps r).2.blur)
  := by
  induction steps generalizing r with
  | nil => rfl
  | cons step steps ih =>
    have first := commutes step (by simp) r
    have rest := ih fun step mem => commutes step (by simp [mem])
    rw [performAll, performAll, first]
    cases step.perform silent r with
    | error stopped => rfl
    | ok report =>
      have after : report.blur.after = report.after.blur := by
        obtain ⟨answer, after, body⟩ := report
        rw [Report.blur]
      simp only [blurOutcome, after, rest, Report.blurAll]

/-- Routine steps commute with blurring. -/
theorem Routine.perform_blur {step : Step} (routine : step.Routine) (r : Rig CaseRecord) :
  step.perform silent r.blur = blurOutcome (step.perform silent r)
  := by
  induction routine generalizing r with
  | call o x m c =>
    simp only [perform, Touch.perform, Rig.blur_call]
    rfl
  | notice i m n =>
    simp only [perform, Touch.perform, Rig.blur_observe]
    rfl
  | check i =>
    simp only [perform, Touch.perform, Rig.blur_check]
    rfl
  | rebase i =>
    simp only [perform, Rig.blur_rebase]
    rfl
  | runCase i _ ih =>
    have commutes := Rig.blur_runCase (f := Report.blurAll) r (performAll_blur ih) i
    simp only [perform, commutes, blurOutcome, Report.blur]
  | panic p => rfl
  | script n change => rfl
  | tell target c =>
    rw [perform, perform, Target.number_blur, Rig.blur_consult]
    rfl
  | record s change => rfl
  | @query q neutral =>
    rw [perform, perform, neutral.answer_blur]
    rfl

/-! ### What routine steps keep -/

/-- The rig that a step leaves, even if it panics. -/
def left : Except (Panic × Rig CaseRecord) Report → Rig CaseRecord
  | .error (_, r) => r
  | .ok report => report.after

theorem performAll_keeps {steps : List Step}
    (keeps : ∀ step ∈ steps, ∀ r : Rig CaseRecord, r.Keeps (left (step.perform silent r)))
    (r : Rig CaseRecord) :
  r.Keeps (performAll silent steps r).2
  := by
  induction steps generalizing r with
  | nil => apply Rig.Keeps.of_eq rfl rfl
  | cons step steps ih =>
    have first := keeps step (by simp) r
    rw [performAll]
    cases outcome : step.perform silent r with
    | error stopped =>
      rw [outcome] at first
      apply first
    | ok report =>
      rw [outcome] at first
      apply first.trans
      apply ih fun step mem => keeps step (by simp [mem])

/-- Routine steps keep contexts and monitors but for their tallies. -/
theorem Routine.keeps {step : Step} (routine : step.Routine) (r : Rig CaseRecord) :
  r.Keeps (left (step.perform silent r))
  := by
  induction routine generalizing r with
  | call o x m c =>
    rw [perform]
    apply Rig.Keeps.call
  | notice i m n =>
    rw [perform]
    apply Rig.Keeps.observe
  | check i =>
    rw [perform]
    apply Rig.Keeps.check
  | rebase i =>
    rw [perform]
    apply Rig.Keeps.rebase
  | runCase i _ ih =>
    rw [perform]
    apply Rig.Keeps.runCase (performAll_keeps ih)
  | tell target c =>
    rw [perform]
    cases c with
    | _ => exact Rig.Keeps.tell _ _
  | _ =>
    rw [perform]
    exact Rig.Keeps.of_eq rfl rfl

end Step

/-! ### Two rigs that differ in the strategy -/

namespace Rig

/-- The rig with monitor `i` set to a strategy. -/
def prefer (i : Nat) (s : Strategy) (r : Rig CaseRecord) : Rig CaseRecord :=
  r.setMonitor i
    { r.monitor i with settings := { (r.monitor i).settings with strategy := s } }

variable {r : Rig CaseRecord} {i x : Nat}

/-- Rigs on which a monitor was enabled by different strategies are the same when they are
blurred. -/
theorem blur_enable (inactive : (r.monitor i).replaced = none)
    (unhooked : (r.context x).hook = none) :
  ((r.prefer i .substitute).enable i x).2.blur = ((r.prefer i .hooks).enable i x).2.blur
  := by
  have ready (s : Strategy) : ((r.prefer i s).monitor i).replaced = none := by
    simp [prefer, setMonitor, inactive]
  have strategy (s : Strategy) : ((r.prefer i s).monitor i).settings.strategy = s := by
    simp [prefer, setMonitor]
  rw [enable_of_substitute (ready .substitute) (strategy .substitute),
    enable_of_hooks (ready .hooks) (strategy .hooks)]
  simp only [blur, Rig.mk.injEq, true_and]
  refine ⟨rfl, rfl, ?_, ?_, rfl, rfl, rfl, ?_⟩
  · funext y
    by_cases here : y = x
    · subst here
      simp [prefer, setMonitor, Context.blur, Primitive.blur, unhooked]
    · simp [prefer, setMonitor, here]
  · funext j
    by_cases here : j = i
    · subst here
      simp [prefer, setMonitor, Monitor.blur, Monitor.countDecorator]
    · simp [prefer, setMonitor, here]
  · simp [prefer, setMonitor, Effect.blurred]

end Rig

/-! ### What remains visible -/

/-- Only events for information get lost when effects are blurred. -/
theorem events_filter_blurred (es : List Effect) :
  (events (es.filter Effect.blurred)).filter (·.level ≠ .info)
    = (events es).filter (·.level ≠ .info)
  := by
  induction es with
  | nil => rfl
  | cons e es ih =>
    rw [events, events, List.filterMap_cons] at *
    cases blurred : e.blurred with
    | true =>
      rw [List.filter_cons_of_pos blurred, List.filterMap_cons]
      cases e.event? with
      | none => apply ih
      | some ev => simp only [List.filter_cons, ih]
    | false =>
      obtain ⟨s, rfl⟩ := Effect.of_not_blurred blurred
      rw [List.filter_cons_of_neg (by simp [blurred])]
      apply ih

/-- No text gets lost when effects are blurred. -/
theorem echo_filter_blurred (es : List Effect) :
  echo (es.filter Effect.blurred) = echo es
  := by
  have texts : (es.filter Effect.blurred).filterMap Effect.echo?
      = es.filterMap Effect.echo? := by
    rw [List.filterMap_filter]
    congr 1
    funext e
    cases blurred : e.blurred with
    | true => rfl
    | false =>
      obtain ⟨s, rfl⟩ := Effect.of_not_blurred blurred
      rfl
  rw [echo, echo, texts]

/-- The strategies are equivalent.  Whatever routine steps follow when a monitor was enabled
on a context without a hook, they are answered alike under both strategies and leave alike
whatever they leave, after each step and at the end; and the monitor can be disabled, which
gives all contexts back as they were. -/
theorem performAll_alike {r : Rig CaseRecord} {i x : Nat}
    (inactive : (r.monitor i).replaced = none) (unhooked : (r.context x).hook = none)
    {steps : List Step} (routine : ∀ step ∈ steps, step.Routine) :
  let run (s : Strategy) := Step.performAll silent steps ((r.prefer i s).enable i x).2
  let ended (s : Strategy) := (run s).2
  Report.answersAll (run .substitute).1.1 = Report.answersAll (run .hooks).1.1
    ∧ Report.blurAll (run .substitute).1.1 = Report.blurAll (run .hooks).1.1
    ∧ (run .substitute).1.2 = (run .hooks).1.2
    ∧ (ended .substitute).handle = (ended .hooks).handle
    ∧ (ended .substitute).script = (ended .hooks).script
    ∧ (∀ j, ((ended .substitute).monitor j).tally = ((ended .hooks).monitor j).tally)
    ∧ (ended .substitute).sink = (ended .hooks).sink
    ∧ (events (ended .substitute).transcript).filter (·.level ≠ .info)
      = (events (ended .hooks).transcript).filter (·.level ≠ .info)
    ∧ echo (ended .substitute).transcript = echo (ended .hooks).transcript
    ∧ ∀ s, ((ended s).disable i x).1 = .ok ∧ ((ended s).disable i x).2.context = r.context
  := by
  intro run ended
  have commutes : ∀ step ∈ steps, ∀ r,
      step.perform silent r.blur = Step.blurOutcome (step.perform silent r) :=
    fun step mem => (routine step mem).perform_blur
  have alike : ((Report.blurAll (run .substitute).1.1, (run .substitute).1.2),
      (ended .substitute).blur)
        = ((Report.blurAll (run .hooks).1.1, (run .hooks).1.2), (ended .hooks).blur) := by
    rw [← Step.performAll_blur commutes, ← Step.performAll_blur commutes,
      Rig.blur_enable inactive unhooked]
  obtain ⟨⟨reports, panic⟩, blurred⟩ : (_ ∧ _) ∧ _ := by simpa using alike
  have handle : (ended .substitute).blur.handle = (ended .hooks).blur.handle := by rw [blurred]
  have script : (ended .substitute).blur.script = (ended .hooks).blur.script := by rw [blurred]
  have sink : (ended .substitute).blur.sink = (ended .hooks).blur.sink := by rw [blurred]
  have transcript : (ended .substitute).transcript.filter Effect.blurred
      = (ended .hooks).transcript.filter Effect.blurred := congrArg Rig.transcript blurred
  refine ⟨?_, reports, panic, handle, script, ?_, sink, ?_, ?_, ?_⟩
  · rw [← Report.answersAll_blurAll, reports, Report.answersAll_blurAll]
  · intro j
    apply congrArg (fun r => (r.monitor j).tally) blurred
  · rw [← events_filter_blurred, transcript, events_filter_blurred]
  · rw [← echo_filter_blurred, transcript, echo_filter_blurred]
  · intro s
    have keeps : ((r.prefer i s).enable i x).2.Keeps (ended s) :=
      Step.performAll_keeps (fun step mem => (routine step mem).keeps) _
    apply Rig.disable_of_enabled (r := r.prefer i s)
    · simp [Rig.prefer, Rig.setMonitor, inactive]
    · apply keeps.context
    · apply keeps.replaced

/-- Two test cases, of which the first panics and the second leaks a handle. -/
def errands : List Step :=
  [.rebase 0,
    .runCase 0 [.touch (.call (.worker 0) 0 1 .unlock), .panic (.text "unexpected")],
    .runCase 0 [.touch (.call (.worker 0) 0 1 .init), .tell (.monitor 0) .violation],
    .touch (.check 0)]

theorem routine_of_mem_errands :
  ∀ step ∈ errands, step.Routine
  := by
  simp only [errands, List.forall_mem_cons]
  refine ⟨.rebase 0, .runCase 0 ?_, .runCase 0 ?_, .check 0, nofun⟩
  · simp only [List.forall_mem_cons]
    exact ⟨.call _ _ _ _, .panic _, nofun⟩
  · simp only [List.forall_mem_cons]
    exact ⟨.call _ _ _ _, .tell _ _, nofun⟩

/-- A rig whose monitor is not enabled yet. -/
def site : Rig CaseRecord := (⟨.hooks, 0, 0, false⟩ : Contest).rig

/-- The two test cases are answered alike under both strategies. -/
theorem performAll_alike_errands :
  (site.monitor 0).replaced = none ∧ (site.context 0).hook = none
    ∧ Report.answersAll
        (Step.performAll silent errands ((site.prefer 0 .substitute).enable 0 0).2).1.1
      = Report.answersAll
        (Step.performAll silent errands ((site.prefer 0 .hooks).enable 0 0).2).1.1
  := by
  have inactive : (site.monitor 0).replaced = none := rfl
  have unhooked : (site.context 0).hook = none := rfl
  obtain ⟨answers, -⟩ := performAll_alike inactive unhooked routine_of_mem_errands
  dsimp only at answers
  exact ⟨inactive, unhooked, answers⟩

end LockDiscipline
