import Mathlib.Data.List.Induction
import Mathlib.Data.List.Nodup
import LockDiscipline.Contest
import LockDiscipline.Proofs.Installation

/-!
# The books of threads

Threads are started into slots and joined by any launchers, whatever the platform makes of the
requests (`ThreadCall`).  A call starts an entry point, or waits for the thread of a slot, or is
refused and leaves all slots as they are (`ThreadCall.perform_cases`).  Hence the log of any
calls is `Booked`: threads have different numbers, every slot holds a thread that was started
and not waited for, and it was started into no other slot.
-/

namespace LockDiscipline

/-- A start of an entry point, if there is one, into a slot, with what the platform makes of the
request, or a join. -/
inductive ThreadCall where
  | start (l : Launcher) (answer : PlatformAnswer) (slot : Nat) (entry : Option EntryPoint)
  | join (l : Launcher) (slot : Nat)

/-- What a thread call comes to. -/
structure ThreadOutcome where
  /-- The answer, unless the launcher panics. -/
  status : Option ThreadStatus
  /-- The thread that an entry point was started as. -/
  started : Option Job
  /-- The thread that was waited for. -/
  joined : Option Job
  deriving DecidableEq, Repr

/-- Whether a status is that of a join that waited for a thread. -/
def ThreadStatus.joins (s : ThreadStatus) : Bool := s = .ok || s = .refused .threadFailure

namespace ThreadCall

/-- The launcher through which a call is made. -/
def launcher : ThreadCall → Launcher
  | start l _ _ _ => l
  | join l _ => l

/-- The slot that a call is about. -/
def slot : ThreadCall → Nat
  | start _ _ k _ => k
  | join _ k => k

/-- Calls with what they come to. -/
abbrev Log := List (ThreadCall × ThreadOutcome)

namespace Log

/-- The number of joins of slot `k` that waited for a thread. -/
def joins (k : Nat) (log : Log) : Nat :=
  log.countP fun
    | (join _ slot, outcome) => slot = k && outcome.status.any ThreadStatus.joins
    | _ => false

/-- The threads that were started, each with its slot. -/
def started (log : Log) : List (Nat × Job) :=
  log.filterMap fun p => p.2.started.map (p.1.slot, ·)

/-- The threads that were waited for, each with its slot. -/
def joined (log : Log) : List (Nat × Job) :=
  log.filterMap fun p => p.2.joined.map (p.1.slot, ·)

end Log

variable {σ : Type} [Sink σ]

/-- Makes a thread call. -/
def perform (r : Rig σ) : ThreadCall → ThreadOutcome × Rig σ
  | start l answer k entry =>
    match l.start answer (entry.map (EntryPoint.job r.started)) (r.slot k) with
    | .ok launch =>
      (⟨some launch.status, launch.running, none⟩, (r.launched silent k entry launch).2)
    | .error _ => (⟨none, none, none⟩, r)
  | join l k =>
    let (status, after) := r.joinThread l k
    (⟨some status, none, if status.joins then (r.slot k).thread else none⟩, after)

/-- Makes thread calls, one after another. -/
def performAll (r : Rig σ) : List ThreadCall → Log × Rig σ
  | [] => ([], r)
  | c :: cs =>
    let (outcome, r) := c.perform r
    let (log, r) := performAll r cs
    ((c, outcome) :: log, r)

theorem performAll_concat (r : Rig σ) (cs : List ThreadCall) (c : ThreadCall) :
  performAll r (cs ++ [c])
    = ((performAll r cs).1 ++ [(c, (c.perform (performAll r cs).2).1)],
      (c.perform (performAll r cs).2).2)
  := by
  induction cs generalizing r with
  | nil => rfl
  | cons d cs ih => simp only [List.cons_append, performAll, ih]

/-- Starting a thread is a call for which the platform makes of the request what it makes of
those of the launcher. -/
theorem startThread_eq_perform (r : Rig σ) (l : Launcher) (k : Nat) (entry : Option EntryPoint) :
  (r.startThread silent l k entry).toOption.map (fun a => (a.1.1, a.2))
    = ((start l l.platform k entry).perform r).1.status.map
      fun status => (status, ((start l l.platform k entry).perform r).2)
  := by
  rw [Rig.startThread, perform]
  cases l.start l.platform (entry.map (EntryPoint.job r.started)) (r.slot k) with
  | error p => rfl
  | ok launch =>
    simp only [Except.map, Except.toOption, Option.map_some, Rig.launched]
    split
    · rfl
    · rfl

end ThreadCall

namespace Rig

variable {σ : Type} {r : Rig σ}

theorem setSlot_self (k : Nat) :
  r.setSlot k (r.slot k) = r
  := by rw [setSlot, Family.set_get]

/-- The rig after an event in the log, if there is one. -/
theorem log?_eq (e : Option Event) :
  ∃ es, r.log? e = { r with transcript := r.transcript ++ es }
  := by
  cases e with
  | none => exact ⟨[], by simp [log?]⟩
  | some e => exact ⟨_, rfl⟩

variable [Sink σ]

/-- No touch changes the slots, or the number of threads started. -/
theorem slot_perform (t : Touch) :
  (t.perform silent r).2.slot = r.slot ∧ (t.perform silent r).2.started = r.started
  := by
  have observed (r : Rig σ) (i : Nat) (op : Operation) (m : Nat) :
      (r.observe silent i op m).slot = r.slot ∧ (r.observe silent i op m).started = r.started := by
    obtain ⟨c, counted⟩ | ⟨v, reported⟩ | skipped | waits := observe_cases (r := r) i op m
    · rw [counted]
      exact ⟨rfl, rfl⟩
    · rw [reported, report_eq]
      exact ⟨rfl, rfl⟩
    · rw [skipped]
      exact ⟨rfl, rfl⟩
    · rw [waits]
      exact ⟨rfl, rfl⟩
  have served (o : Owner) (p : Primitive) (hook : Option Observer) (m : Nat) (c : Call) :
      (r.serve silent o p hook m c).2.slot = r.slot
        ∧ (r.serve silent o p hook m c).2.started = r.started := by
    apply serve_of_told (P := fun r r' : Rig σ => r'.slot = r.slot ∧ r'.started = r.started)
    case refl => exact fun _ => ⟨rfl, rfl⟩
    case trans => exact fun _ _ _ h h' => ⟨h'.1.trans h.1, h'.2.trans h.2⟩
    case bare => exact fun _ _ _ _ => ⟨rfl, rfl⟩
    case told =>
      intro a _ r n
      cases a with
      | monitor i => exact observed r i n.operation m
      | recorder k => exact ⟨rfl, rfl⟩
  cases t with
  | call o x m c =>
    rw [Touch.perform, call_eq_serve]
    exact served o _ _ m c
  | callDirectly o n m c =>
    rw [Touch.perform, callDirectly_eq_serve]
    exact served o _ none m c
  | notice i m n => exact observed r i n.operation m
  | check i =>
    rw [Touch.perform, check]
    cases (r.monitor i).attempt with
    | acquired =>
      simp only [closeCase_eq_parley]
      exact ⟨rfl, rfl⟩
    | busy => exact ⟨rfl, rfl⟩
    | waiting => exact ⟨rfl, rfl⟩

theorem slot_performAll (ts : List Touch) :
  (Touch.performAll silent r ts).2.slot = r.slot
    ∧ (Touch.performAll silent r ts).2.started = r.started
  := by
  induction ts generalizing r with
  | nil => exact ⟨rfl, rfl⟩
  | cons t ts ih =>
    obtain ⟨slot, started⟩ := slot_perform (r := r) t
    obtain ⟨slot', started'⟩ := ih (r := (t.perform silent r).2)
    exact ⟨slot'.trans slot, started'.trans started⟩

/-- The body of an entry point changes no slot. -/
theorem slot_runEntry (n : Nat) (e : EntryPoint) :
  (r.runEntry silent n e).2.slot = r.slot ∧ (r.runEntry silent n e).2.started = n + 1
  := slot_performAll (r := { r with started := n + 1 }) _

end Rig

/-- A launcher starts a job in an empty slot, or refuses and leaves the slot, or panics. -/
theorem Launcher.start_cases (l : Launcher) (answer : PlatformAnswer) (job : Option Job)
    (s : Slot) :
  (∃ j, job = some j ∧ s.thread = none ∧ l.start answer job s = .ok ⟨.ok, some j, ⟨some j⟩⟩)
    ∨ (∃ e, l.start answer job s = .ok ⟨.refused e, none, s⟩)
    ∨ ∃ p, answer = .panicked p ∧ l.start answer job s = .error p
  := by
  unfold start
  split
  · exact .inr (.inl ⟨_, rfl⟩)
  · exact .inr (.inl ⟨_, rfl⟩)
  · split
    · exact .inr (.inl ⟨_, rfl⟩)
    · next free =>
      cases answer with
      | granted => exact .inl ⟨_, rfl, Option.not_isSome_iff_eq_none.mp free, rfl⟩
      | outOfMemory => exact .inr (.inl ⟨_, rfl⟩)
      | refused => exact .inr (.inl ⟨_, rfl⟩)
      | panicked p => exact .inr (.inr ⟨p, rfl, rfl⟩)

/-- A launcher waits for the thread of a slot, or refuses and leaves the slot. -/
theorem Launcher.join_cases (l : Launcher) (s : Slot) :
  (∃ job, s.thread = some job ∧ l ≠ unavailable ∧ l.join s = (job.ending.status, {}))
    ∨ ((s.thread = none ∨ l = unavailable) ∧ l.join s = (.refused .badInputData, s))
  := by
  unfold join
  split
  · exact .inr ⟨.inr rfl, rfl⟩
  · next empty => exact .inr ⟨.inl empty, rfl⟩
  · next job available held => exact .inl ⟨job, held, available, rfl⟩

theorem Ending.joins_status (e : Ending) :
  e.status.joins = true
  := by cases e <;> rfl

namespace ThreadCall

variable {σ : Type} [Sink σ]

/-! ### One call -/

/-- A call starts an entry point as a new thread in an empty slot, or waits for the thread of a
slot, which is empty then, or it leaves at most an event. -/
theorem perform_cases (c : ThreadCall) (r : Rig σ) :
  (∃ l answer k e, c = start l answer k (some e) ∧ (r.slot k).thread = none
      ∧ c.perform r = (⟨some .ok, some (e.job r.started), none⟩,
        ((r.setSlot k ⟨some (e.job r.started)⟩).runEntry silent r.started e).2))
    ∨ (∃ l k job, c = join l k ∧ (r.slot k).thread = some job
      ∧ c.perform r = (⟨some job.ending.status, none, some job⟩,
        (r.setSlot k {}).log? (joinEvent? job.ending.status)))
    ∨ (∃ refusal event, c.perform r = (⟨refusal.map .refused, none, none⟩, r.log? event)
      ∧ (refusal = none → ∃ l p k e, c = start l (.panicked p) k e)
      ∧ ∀ l k, c = join l k → refusal = some .badInputData)
  := by
  cases c with
  | start l answer k entry =>
    obtain ⟨j, given, free, launched⟩ | ⟨e, refused⟩ | ⟨p, blamed, panicked⟩ :=
      l.start_cases answer (entry.map (EntryPoint.job r.started)) (r.slot k)
    · obtain ⟨e, rfl, rfl⟩ := Option.map_eq_some_iff.mp given
      refine .inl ⟨l, answer, k, e, rfl, free, ?_⟩
      rw [perform, launched]
      rfl
    · refine .inr (.inr ⟨some e, spawnEvent? (.refused e), ?_, nofun, nofun⟩)
      simp only [perform, refused, Rig.launched, Rig.setSlot_self, Option.map_some]
    · refine .inr (.inr ⟨none, none, ?_, fun _ => ⟨l, p, k, entry, ?_⟩, nofun⟩)
      · rw [perform, panicked]
        rfl
      · rw [blamed]
  | join l k =>
    obtain ⟨job, held, -, joined⟩ | ⟨-, refused⟩ := l.join_cases (r.slot k)
    · refine .inr (.inl ⟨l, k, job, rfl, held, ?_⟩)
      simp only [perform, Rig.joinThread, joined, Ending.joins_status, if_true, held]
    · refine .inr (.inr ⟨some .badInputData, none, ?_, nofun, fun _ _ _ => rfl⟩)
      simp only [perform, Rig.joinThread, refused, Rig.setSlot_self]
      rfl

/-- What a call comes to fits the call. -/
def Fits : ThreadCall × ThreadOutcome → Prop
  | (start _ answer _ entry, outcome) =>
    outcome.joined = none
      ∧ ((outcome.status = some .ok
          ∧ ∃ e n, entry = some e ∧ outcome.started = some (e.job n))
        ∨ (outcome.started = none ∧ ∃ e, outcome.status = some (.refused e))
        ∨ (outcome.started = none ∧ outcome.status = none ∧ ∃ p, answer = .panicked p))
  | (join _ _, outcome) =>
    outcome.started = none
      ∧ ((∃ job, outcome.joined = some job ∧ outcome.status = some job.ending.status)
        ∨ (outcome.joined = none ∧ outcome.status = some (.refused .badInputData)))

end ThreadCall

/-! ### The books -/

namespace ThreadCall

namespace Log

@[simp]
theorem started_concat (log : Log) (c : ThreadCall) (o : ThreadOutcome) :
  started (log ++ [(c, o)]) = log.started ++ (o.started.map (c.slot, ·)).toList
  := by
  rw [started, List.filterMap_append, List.filterMap_cons]
  cases o.started <;> rfl

@[simp]
theorem joined_concat (log : Log) (c : ThreadCall) (o : ThreadOutcome) :
  joined (log ++ [(c, o)]) = log.joined ++ (o.joined.map (c.slot, ·)).toList
  := by
  rw [joined, List.filterMap_append, List.filterMap_cons]
  cases o.joined <;> rfl

end Log

variable {σ : Type}

/-- Threads are numbered in the order in which they were started, and the threads of a slot are
waited for in this order, but for the one that the slot still holds. -/
structure Booked (first : Nat) (log : Log) (r : Rig σ) : Prop where
  numbers : log.started.map (·.2.number) = List.range' first log.started.length
  count : r.started = first + log.started.length
  order : ∀ k, log.started.filter (·.1 = k)
    = log.joined.filter (·.1 = k) ++ ((r.slot k).thread.map (k, ·)).toList

namespace Booked

variable {first : Nat} {log : Log} {r : Rig σ}

variable [Sink σ]

/-- The books are kept by a call. -/
theorem perform (h : Booked first log r) (c : ThreadCall) :
  Booked first (log ++ [(c, (c.perform r).1)]) (c.perform r).2
  := by
  obtain ⟨l, answer, k, e, rfl, free, started⟩ | ⟨l, k, job, rfl, held, joined⟩
      | ⟨refusal, event, refused, -⟩ := perform_cases c r
  · obtain ⟨slot, next⟩ := Rig.slot_runEntry
      (r := r.setSlot k ⟨some (e.job r.started)⟩) r.started e
    rw [started]
    constructor
    case numbers => simp [h.numbers, List.range'_concat, ThreadCall.slot, EntryPoint.job, h.count]
    case count =>
      simp only [next]
      simp [h.count, Nat.add_assoc]
    case order =>
      intro j
      have before := h.order j
      simp only [slot]
      simp only [Rig.setSlot]
      by_cases same : j = k
      · subst same
        simp [ThreadCall.slot, before, free]
      · simp [ThreadCall.slot, before, same, Ne.symm same]
  · obtain ⟨es, logged⟩ := Rig.log?_eq (r := r.setSlot k {}) (joinEvent? job.ending.status)
    rw [joined, logged]
    constructor
    case numbers => simpa using h.numbers
    case count => simpa [Rig.setSlot] using h.count
    case order =>
      intro j
      have before := h.order j
      simp only [Rig.setSlot]
      by_cases same : j = k
      · subst same
        simp [ThreadCall.slot, before, held]
      · simp [ThreadCall.slot, before, same, Ne.symm same]
  · obtain ⟨es, logged⟩ := Rig.log?_eq (r := r) event
    rw [refused, logged]
    constructor
    case numbers => simpa using h.numbers
    case count => simpa using h.count
    case order => simpa using h.order

/-- Rigs with empty slots have empty books, which calls then keep. -/
theorem performAll (empty : ∀ k, (r.slot k).thread = none) (cs : List ThreadCall) :
  Booked r.started (performAll r cs).1 (performAll r cs).2
  := by
  induction cs using List.reverseRecOn with
  | nil =>
    constructor
    case numbers => rfl
    case count => rfl
    case order =>
      intro k
      simp [ThreadCall.performAll, Log.started, Log.joined, empty k]
  | append_singleton cs c ih =>
    rw [performAll_concat]
    exact ih.perform c

end Booked

variable [Sink σ]

/-- Threads are started into three slots by different launchers: one panics after it initialised
and locked a handle, one that would have initialised another is lost to the lack of memory, and
one is waited for after a launcher that is not available refused to. -/
def errands : List ThreadCall :=
  [.start (.builder none (some 4096)) .granted 2 (some {}),
    .start .spawn .granted 0
      (some ⟨[.call (.worker 0) 0 0 .init, .call (.worker 0) 0 0 .lock], true⟩),
    .start .spawn .granted 0 (some {}),
    .start (.builder (some "worker") none) .outOfMemory 1
      (some ⟨[.call (.worker 0) 0 1 .init], false⟩),
    .join .unavailable 0, .join (.builder none none) 0, .join .spawn 0]

end ThreadCall

end LockDiscipline
