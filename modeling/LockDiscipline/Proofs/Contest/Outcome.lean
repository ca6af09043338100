import LockDiscipline.Proofs.Contest.Race
import LockDiscipline.Proofs.Frame

/-!
# The outcome of a contest

However the threads of a contest are interleaved, once all of them are done the contest has
come to one and the same end.  The monitor has found nothing to report, nothing was added to
the counter twice or lost, and the shared handle can be freed; the check of the test case
then finds the handles that were leaked on purpose, one for each thread, and nothing else.
-/

namespace LockDiscipline

open Contest

namespace Rig

variable {r : Rig CaseRecord} {x m : Nat}

/-- Initialising a handle of a native primitive is observed, and that is all. -/
theorem call_init (watched : r.Watched 0 x)
    (native : (r.context x).primitive.kind = .native) (o : Owner) :
  (r.call silent o x m .init).2
    = (r.setHandle m ((r.handle m).mark .idle)).adjust 0 (·.count 1)
  := by
  rw [call_eq_serve, serve_of_observers watched.observers]
  have waits : r.blocks (r.context x).primitive m .init = false := by simp [blocks]
  have bare : r.serveBare o (r.context x).primitive m .init = (.ok, r) := by
    rw [serveBare.eq_def, native]
  simp only [waits, bare]
  apply observe_of_ok watched.free (transition_init _)

/-- Freeing an idle handle of a native primitive is observed, and that is all. -/
theorem call_free (watched : r.Watched 0 x)
    (native : (r.context x).primitive.kind = .native)
    (idle : (r.handle m).state? = some .idle) (o : Owner) :
  (r.call silent o x m .free).2
    = (r.setHandle m ((r.handle m).mark .freed)).adjust 0 (·.count (-1))
  := by
  rw [call_eq_serve, serve_of_observers watched.observers]
  have waits : r.blocks (r.context x).primitive m .free = false := by simp [blocks]
  have bare (r' : Rig CaseRecord) :
      (r'.serveBare o (r.context x).primitive m .free).2 = r' := by
    rw [serveBare.eq_def, native]
  have legal : transition (r.handle m).byte .free = .ok ⟨.freed, -1⟩ := by
    rw [LockState.ofByte?_eq_some_iff.mp idle, transition_byte]
    rfl
  simp only [waits, bare]
  apply observe_of_ok watched.free legal

theorem counted_self (r : Rig CaseRecord) :
  r.counted r.handle (r.monitor 0).tally.value.live = r
  := by simp [counted, Monitor.adjust, Guard.put]

theorem keeps_counted (r : Rig CaseRecord) (f : Family Handle) (n : Int) :
  r.Keeps (r.counted f n)
  := by
  apply Keeps.adjust (i := 0) fun t => { t with live := n }
  · rfl
  · rfl

theorem counted_counted (r : Rig CaseRecord) (f g : Family Handle) (n p : Int) :
  (r.counted f n).counted g p = r.counted g p
  := by simp [counted, Monitor.adjust, Guard.put]

end Rig

namespace Contest

variable {c : Contest}

/-- The rig on which the body of the test case starts. -/
def begun (c : Contest) : Rig CaseRecord := c.opened.tell silent 0 .reset

/-- How many handles are leaked on purpose. -/
def leaked (c : Contest) : Int := if c.leak then c.threads else 0

/-! ### The start -/

theorem watched_begun (c : Contest) :
  c.begun.Watched 0 0
  := by
  have enabled : (c.rig.enable 0 0).2.Watched 0 0 := Rig.watched_enable rfl rfl rfl
  apply (enabled.kept (Rig.Keeps.rebase 0)).kept
  apply Rig.Keeps.tell

/-- How a rig is when the body of a contest starts on it: nothing has happened yet but that
the monitor was enabled. -/
structure Begun (c : Contest) (r : Rig CaseRecord) : Prop where
  native : (r.context 0).primitive.kind = .native
  handle : r.handle = fun _ => {}
  sink : r.sink 0 = .fresh
  transcript : r.transcript =
    [.logged (.enabled c.strategy), .logged (.rebased 0), .told 0 .reset]
  monitor : ∃ old n, r.monitor 0 =
    { sink := 0
      settings := { strategy := c.strategy, echo := false }
      replaced := some old
      decorators := n }

theorem begins (c : Contest) :
  c.Begun c.begun
  := by
  obtain ⟨strategy, threads, rounds, leak⟩ := c
  cases strategy with
  | substitute => exact ⟨rfl, rfl, rfl, rfl, _, _, rfl⟩
  | hooks => exact ⟨rfl, rfl, rfl, rfl, _, _, rfl⟩

/-- When the threads start, the shared handle is the only one that is live. -/
theorem start_eq (c : Contest) :
  (c.begun.call silent referee 0 shared .init).2
    = c.begun.counted (c.begun.handle.set shared (Stance.away.handle 0)) 1
  := by
  rw [Rig.call_init c.watched_begun c.begins.native, ← Rig.counted_self c.begun,
    Rig.counted_change, Rig.counted_counted]
  congr 1
  · rw [c.begins.handle]
    rfl
  · obtain ⟨old, n, monitor⟩ := c.begins.monitor
    rw [monitor]
    rfl

theorem free_start (c : Contest) :
  ((c.begun.call silent referee 0 shared .init).2.monitor 0).tally.held = false
  := by rw [start_eq, Rig.held_counted, c.watched_begun.free]

/-- Before the first move the threads are in a race. -/
theorem racing_start (c : Contest) :
  c.Racing (c.begun.call silent referee 0 shared .init).2 (fun _ => .away) (fun _ => .unborn)
    (c.machine (c.begun.call silent referee 0 shared .init).2)
  := by
  have watched : (c.begun.context 0).observers = [watcher] := c.watched_begun.observers
  rw [start_eq]
  have thread (i : Nat) (inside : i < c.threads) :
      ((c.machine (c.begun.counted (c.begun.handle.set shared (Stance.away.handle 0)) 1)).thread
        i).todo = c.program [watcher] i := by
    rw [← watched]
    simp [machine, inside, Rig.counted]
  constructor
  case rig =>
    simp [machine, Stance.weight, Rig.counted, Monitor.adjust, Guard.put]
  case orderly =>
    intro i inside
    rw [thread i inside]
    apply c.orderly_program
  case absent =>
    intro i outside
    have out : ¬ i < c.threads := by omega
    simp [machine, out]
  case shared =>
    use 0
    simp [machine, Rig.counted]
  case born =>
    intro i unborn
    cases unborn
  case own =>
    intro i inside
    have apart : own i ≠ shared := Nat.succ_ne_zero i
    simp only [machine, Rig.counted, Family.set_of_ne _ _ apart, c.begins.handle]
    rfl
  case register =>
    intro i reading
    cases reading
  case counter =>
    have writes : ∀ i ∈ Finset.range c.threads,
        ((c.machine (c.begun.counted (c.begun.handle.set shared (Stance.away.handle 0))
          1)).thread i).todo.count .store = c.rounds := by
      intro i inside
      rw [thread i (Finset.mem_range.mp inside), count_store_program]
    rw [Finset.sum_congr rfl writes]
    simp [machine]

/-! ### The end of the race -/

/-- When the threads of a contest are done, all of them are away from the shared handle, they
have written the counter as often as they should, and the handles that are live are the
shared one and those that were leaked on purpose. -/
theorem Racing.of_finished {start : Rig CaseRecord} {a b : Family Stance}
    {k : Machine CaseRecord} (h : c.Racing start a b k)
    (finished : k.finished c.threads = true) :
  k.counter = c.threads * c.rounds
    ∧ (∃ i, k.rig.handle Contest.shared = Stance.away.handle i)
    ∧ k.rig = start.counted k.rig.handle ((start.monitor 0).tally.value.live + c.leaked)
  := by
  have done : ∀ i < c.threads, (k.thread i).todo = [] := by
    simpa [Machine.finished] using finished
  have last : ∀ i < c.threads, a i = .away ∧ b i = c.lastStance := by
    intro i inside
    obtain ⟨-, rests⟩ | ⟨_, _, _, todo, -⟩ | ⟨_, _, _, todo, -⟩ := (h.orderly i inside).inv
    · apply rests
    · cases (done i inside).symm.trans todo
    · cases (done i inside).symm.trans todo
  constructor
  · have writes : ∑ i ∈ Finset.range c.threads, (k.thread i).todo.count .store = 0 := by
      apply Finset.sum_eq_zero
      intro i inside
      rw [done i (Finset.mem_range.mp inside)]
      rfl
    rw [← h.counter, writes, Nat.add_zero]
  constructor
  · obtain ⟨i, stands, -⟩ := h.shared
    have away : a i = .away := by
      by_cases inside : i < c.threads
      · apply (last i inside).1
      · apply (h.absent i (by omega)).2
    use i
    rw [stands, away]
  · have live : ∑ i ∈ Finset.range c.threads, (b i).weight = c.leaked := by
      have weight : ∀ i ∈ Finset.range c.threads, (b i).weight = c.lastStance.weight := by
        intro i inside
        rw [(last i (Finset.mem_range.mp inside)).2]
      rw [Finset.sum_congr rfl weight]
      cases leak : c.leak with
      | true => simp [leaked, lastStance, leak, Stance.weight]
      | false => simp [leaked, lastStance, leak, Stance.weight]
    rw [← live]
    apply h.rig

/-- Once the threads are done the shared handle is idle, and freeing it leaves the rig as it
was when the case began, but for the handles and the number of those that are live. -/
theorem body_of_finished {schedule : List Nat}
    (finished : (c.race schedule c.begun).finished c.threads = true) :
  ((c.race schedule c.begun).rig.handle shared).state? = some .idle
    ∧ ∃ handle, (handle shared).state? = some .freed
      ∧ c.body schedule c.begun
        = ((c.threads * c.rounds, none), c.begun.counted handle c.leaked)
  := by
  obtain ⟨a, b, racing⟩ := c.racing_start.run c.free_start schedule
  obtain ⟨counter, ⟨i, stands⟩, rig⟩ := racing.of_finished finished
  have idle : ((c.race schedule c.begun).rig.handle shared).state? = some .idle := by
    rw [race, stands]
    rfl
  have live : ((c.begun.counted (c.begun.handle.set shared (Stance.away.handle 0))
      1).monitor 0).tally.value.live = 1 := by
    simp [Rig.counted, Monitor.adjust, Guard.put]
  rw [start_eq, live, Rig.counted_counted, ← start_eq] at rig
  use idle, (c.race schedule c.begun).rig.handle.set shared
    (((c.race schedule c.begun).rig.handle shared).mark .freed)
  constructor
  · simp
  · have rig : (c.race schedule c.begun).rig
        = c.begun.counted (c.race schedule c.begun).rig.handle (1 + c.leaked) := rig
    have watches : (c.race schedule c.begun).rig.Watched 0 0 := by
      rw [rig]
      apply c.watched_begun.kept (Rig.keeps_counted _ _ _)
    have native : ((c.race schedule c.begun).rig.context 0).primitive.kind = .native := by
      rw [rig]
      apply c.begins.native
    have freed := Rig.call_free watches native idle referee
    rw [rig, Rig.counted_change, ← rig] at freed
    rw [body, freed]
    have counted : (c.race schedule c.begun).counter = c.threads * c.rounds := counter
    rw [counted]
    congr 2
    omega

/-! ### The end of the test case -/

/-- What becomes visible in a contest: nothing while the threads run, and at the end the
handles that were leaked on purpose, if any. -/
def account (c : Contest) : List Effect :=
  [.logged (.enabled c.strategy), .logged (.rebased 0), .told 0 .reset]
    ++ (if c.leaked = 0 then [.told 0 .violation]
      else
        [.logged (.leaked c.leaked), .told 0 (.record (.missingFree c.leaked)),
          .told 0 .violation, .told 0 .verdict, .told 0 (.fail usageFailure)])
    ++ [.told 0 .clear, .told 0 .verdict, .logged .disabled]

/-- What a contest leaves, in whichever order its threads move. -/
def outcome (c : Contest) : Result where
  verdict := if c.leaked = 0 then .passed else .failed
  counter := c.threads * c.rounds
  tally := ⟨0, 0⟩
  failure := if c.leaked = 0 then none else some usageFailure
  transcript := c.account

/-- The check of a contest finds the handles that were leaked on purpose, and closes the
case. -/
theorem check_counted (c : Contest) (handle : Family Handle) :
  ∃ r : Rig CaseRecord, (c.begun.counted handle c.leaked).check silent 0
      = (if c.leaked = 0 then none else some (.missingFree c.leaked), r)
    ∧ r.monitor 0 = c.begun.monitor 0
    ∧ r.sink 0 =
      { verdict := c.outcome.verdict, failure := c.outcome.failure }
    ∧ r.transcript ++ [.told 0 .verdict, .logged .disabled] = c.account
  := by
  have free : ((c.begun.counted handle c.leaked).monitor 0).tally.held = false := by
    rw [Rig.held_counted, c.watched_begun.free]
  obtain ⟨old, n, monitor⟩ := c.begins.monitor
  rw [Rig.check_of_free free, Rig.closeCase_eq]
  by_cases nothing : c.leaked = 0
  · simp [Rig.counted, monitor, nothing, c.begins.sink, c.begins.transcript, Monitor.adjust,
      Guard.put, Tally.settle, Tally.leaked, CaseRecord.settle, CaseRecord.close, outcome,
      account, Monitor.closing, Monitor.surplus, Monitor.conviction, CaseRecord.fresh,
      CaseRecord.clear]
  · simp [Rig.counted, monitor, nothing, c.begins.sink, c.begins.transcript, Monitor.adjust,
      Guard.put, Tally.settle, Tally.leaked, CaseRecord.settle, CaseRecord.close, outcome,
      account, Monitor.closing, Monitor.surplus, Monitor.conviction, Monitor.echoes,
      CaseRecord.fresh, CaseRecord.clear, CaseRecord.record, CaseRecord.fail]

/-- A case whose body leaves some handles live fails for them, and for nothing else. -/
theorem resultOf_counted {body : Rig CaseRecord → (Nat × Option Panic) × Rig CaseRecord}
    {handle : Family Handle}
    (ends : body c.begun = ((c.threads * c.rounds, none), c.begun.counted handle c.leaked)) :
  c.resultOf body = c.outcome
  := by
  have begins : c.opened.tell silent (c.opened.monitor 0).sink .reset = c.begun := by
    obtain ⟨strategy, threads, rounds, leak⟩ := c
    cases strategy with
    | substitute => rfl
    | hooks => rfl
  obtain ⟨old, n, monitor⟩ := c.begins.monitor
  obtain ⟨r, check, kept, sink, transcript⟩ := c.check_counted handle
  have before : ((c.begun.counted handle c.leaked).monitor 0).sink = 0 := by
    simp [Rig.counted, Monitor.adjust, monitor]
  rw [monitor] at kept
  have active : ((r.tell silent 0 .verdict).monitor 0).replaced = some old := by
    simp [Rig.tell, silent, Rig.setSink, Rig.emit, kept]
  obtain ⟨context, disabled⟩ := Rig.disable_of_active (x := 0) active
  simp only [resultOf, Rig.runCase, begins, ends, Rig.concludeCase, check, before,
    Rig.askVerdict, disabled]
  simp [Rig.tell, silent, Rig.setSink, Rig.emit, kept, sink, transcript, outcome,
    Sink.receive, Sink.verdict]

/-! ### All interleavings -/

theorem leaked_eq_zero (c : Contest) :
  c.leaked = 0 ↔ ¬ (c.leak = true ∧ 0 < c.threads)
  := by
  cases leak : c.leak with
  | true => simp [leaked, leak]
  | false => simp [leaked, leak]

/-- However far a schedule takes the threads, nothing was reported, and the schedule can be
completed.  Once the threads are done the contest has come to its one outcome. -/
theorem play_eq_outcome (c : Contest) (schedule : List Nat) :
  (c.race schedule c.begun).rig.transcript = c.begun.transcript
    ∧ (c.race schedule c.begun).rig.sink = c.begun.sink
    ∧ (∃ more, (c.race (schedule ++ more) c.begun).finished c.threads = true)
    ∧ ((c.race schedule c.begun).finished c.threads = true →
      c.play schedule = c.outcome
        ∧ (∀ v op, .violated v op ∉ events (c.play schedule).transcript)
        ∧ (c.play schedule).counter = c.threads * c.rounds
        ∧ ((c.race schedule c.begun).rig.handle shared).state? = some .idle
        ∧ ((c.body schedule c.begun).2.handle shared).state? = some .freed
        ∧ (c.play schedule).tally = ⟨0, 0⟩
        ∧ ((c.body schedule c.begun).2.check silent 0).1
          = (if c.leak = true ∧ 0 < c.threads then some (.missingFree c.threads) else none)
        ∧ (c.play schedule).verdict
          = (if c.leak = true ∧ 0 < c.threads then .failed else .passed)
        ∧ (c.play schedule).failure
          = (if c.leak = true ∧ 0 < c.threads then some usageFailure else none))
  := by
  obtain ⟨a, b, racing⟩ := c.racing_start.run c.free_start schedule
  obtain ⟨more, done⟩ := racing.exists_finished c.free_start
  have rig : (c.race schedule c.begun).rig = _ := racing.rig
  rw [start_eq, Rig.counted_counted] at rig
  refine ⟨by rw [rig]; rfl, by rw [rig]; rfl, ⟨more, ?_⟩, ?_⟩
  · rw [race, Machine.run, List.foldl_append]
    apply done
  · intro finished
    obtain ⟨idle, handle, freed, ends⟩ := body_of_finished finished
    have outcome_eq : c.play schedule = c.outcome := resultOf_counted ends
    obtain ⟨_, check, -⟩ := c.check_counted handle
    rw [outcome_eq, ends, check, outcome]
    simp only [leaked_eq_zero, ite_not]
    refine ⟨trivial, ?_, trivial, idle, freed, trivial, ?_, trivial, trivial⟩
    · intro v op
      simp only [account]
      split
      · simp [events, Effect.event?]
      · simp [events, Effect.event?]
    · split
      · next leaks => simp [leaked, leaks.1]
      · rfl

/-- Two threads that wait for each other again and again, and leak their handles. -/
theorem play_eq_outcome_in_turns :
  let c : Contest := ⟨.hooks, 2, 1, true⟩
  let schedule := (List.replicate 24 [0, 1]).flatten
  (c.race schedule c.begun).finished c.threads = true ∧ c.play schedule = c.outcome
  := by
  intro c schedule
  have finished : (c.race schedule c.begun).finished c.threads = true := by decide +kernel
  exact ⟨finished, ((play_eq_outcome c schedule).2.2.2 finished).1⟩

end Contest

end LockDiscipline
