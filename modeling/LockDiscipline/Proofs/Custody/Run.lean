import LockDiscipline.Contest
import LockDiscipline.Proofs.Custody.Grip
import LockDiscipline.Proofs.Findings

/-!
# A locked handle is held

Any number of threads make any calls through a context of which one monitor is told.
`Machine.Supervised` is what holds at every moment, in whichever order they move: everybody
has moves ahead that fit the phase, and every handle is in custody.  A step keeps it
(`Machine.Supervised.step?`), hence so does every schedule (`Machine.Supervised.run`).
-/

namespace LockDiscipline

/-- The violation that an effect tells of, be it a call of a sink or an event in the log. -/
def Effect.violation? : Effect → Option Violation
  | told _ (.record v) => some v
  | logged (.violated v _) => some v
  | _ => none

/-- A handle that is marked as locked after an operation was marked by it, or before. -/
theorem Standing.eq_lock_or_of_after {s : Standing} {op : Operation}
    (marked : (s.after op).byte = LockState.locked.byte) :
  op = .lock true ∨ s.byte = LockState.locked.byte ∧ op ≠ .init ∧ op ≠ .unlock
  := by
  cases changes : transition s.byte op with
  | ok c =>
    left
    rw [after_of_ok changes] at marked
    obtain ⟨-, rfl⟩ | ⟨-, -, rfl⟩ | ⟨rfl, -⟩ | ⟨-, -, rfl⟩ | ⟨-, -, rfl⟩ := legal_cases changes
    · cases marked
    · cases marked
    · rfl
    · cases marked
    · cases marked
  | error v =>
    rw [after_of_error changes] at marked
    refine .inr ⟨marked, ?_, ?_⟩
    · rintro rfl
      cases changes
    · rintro rfl
      rw [marked] at changes
      cases changes

/-- Only a lock of a handle that is marked as locked already is a double lock. -/
theorem eq_of_doubleLock {b : UInt8} {op : Operation}
    (double : transition b op = .error .doubleLock) :
  b = LockState.locked.byte ∧ ∃ acquired, op = .lock acquired
  := by
  cases state : LockState.ofByte? b with
  | some s =>
    obtain rfl := LockState.ofByte?_eq_some_iff.mp state
    rw [transition_byte] at double
    obtain _ | _ | acquired | _ := op
    all_goals
      cases s <;> cases double
    exact ⟨rfl, acquired, rfl⟩
  | none =>
    obtain rfl | illegal := transition_of_corrupted state op
    · cases double
    · cases illegal.symm.trans double

/-- An effect of an observation that tells of a violation tells of the one that the operation
is. -/
theorem Monitor.transition_of_mem_findings {x : Monitor} {b : UInt8} {op : Operation}
    {e : Effect} {v : Violation} (mem : e ∈ x.findings b op) (tells : e.violation? = some v) :
  transition b op = .error v
  := by
  rw [findings, violations] at mem
  cases changes : transition b op with
  | ok c => simp [changes] at mem
  | error v' =>
    have mem : e = .told x.sink (.record v') ∨ e = .logged (.violated v' op)
        ∨ e ∈ x.echoes v'.notice := by
      simpa [changes, reports] using mem
    obtain rfl | rfl | echoed := mem
    · obtain rfl : v' = v := by simpa [Effect.violation?] using tells
      rfl
    · obtain rfl : v' = v := by simpa [Effect.violation?] using tells
      rfl
    · rw [echoes] at echoed
      split at echoed
      · obtain rfl := List.mem_singleton.mp echoed
        cases tells
      · cases echoed

namespace Machine

variable {σ : Type} [Sink σ]

/-- The moves that are made in the order of a schedule, each with the thread that makes
it. -/
def made (R : Responder σ) : List Nat → Machine σ → List (Nat × Move)
  | [], _ => []
  | i :: schedule, k =>
    match k.step? R i with
    | none => made R schedule k
    | some k' => ((k.thread i).todo.head?.toList.map (i, ·)) ++ made R schedule k'

/-- What every move keeps, together with the history, is kept in whichever order the threads
move. -/
theorem made_induction {R : Responder σ} {P : List (Nat × Move) → Machine σ → Prop}
    (step : ∀ made k k' j, P made k → k.step? R j = some k' →
      ∃ move, (k.thread j).todo.head? = some move ∧ P (made ++ [(j, move)]) k')
    {made : List (Nat × Move)} {k : Machine σ} (h : P made k) (schedule : List Nat) :
  P (made ++ k.made R schedule) (k.run R schedule)
  := by
  induction schedule generalizing made k with
  | nil => simpa [Machine.made, Machine.run] using h
  | cons j schedule ih =>
    rw [Machine.made, Machine.run, List.foldl_cons, Machine.step]
    cases moved : k.step? R j with
    | none => apply ih h
    | some k' =>
      obtain ⟨move, head, after⟩ := step _ _ _ _ h moved
      simpa [head, Machine.run] using ih after

/-- Everybody has moves ahead that fit the phase, every handle is in custody, and since the
transcript was `start` nobody was told of a double lock. -/
structure Supervised (i : Nat) (start : List Effect) (phase : Family Phase)
    (made : List (Nat × Move)) (k : Machine σ) : Prop where
  free : (k.rig.monitor i).tally.held = false
  ahead : ∀ j, Ahead (.monitor i) (phase j) (k.thread j).todo
  custody : ∀ m, Custody (.monitor i) m (k.rig.handle m) phase made
  clean : ∃ es, k.rig.transcript = start ++ es ∧ ∀ e ∈ es, e.violation? ≠ some .doubleLock

namespace Supervised

variable {i j n : Nat} {start es : List Effect} {phase : Family Phase}
  {made : List (Nat × Move)} {k k' : Machine σ} {p : Phase} {move : Move}

omit [Sink σ] in
/-- A move on handle `n` leaves everybody else and all other handles as they are. -/
theorem advance (h : Supervised i start phase made k) {r : Rig σ} {t : Thread} {hd : Handle}
    (handle : r.handle = k.rig.handle.set n hd)
    (held : (r.monitor i).tally.held = (k.rig.monitor i).tally.held)
    (transcript : r.transcript = k.rig.transcript ++ es)
    (clean : ∀ e ∈ es, e.violation? ≠ some .doubleLock) (ahead : Ahead (.monitor i) p t.todo)
    (custody : Custody (.monitor i) n hd (phase.set j p) (made ++ [(j, move)]))
    (spares : ∀ m, m ≠ n → (phase j).Spares (.monitor i) m move p) :
  Supervised i start (phase.set j p) (made ++ [(j, move)])
    { k with rig := r, thread := k.thread.set j t }
  := by
  constructor
  case free => rw [held, h.free]
  case ahead =>
    intro l
    by_cases here : l = j
    · subst here
      simpa using ahead
    · simpa [here] using h.ahead l
  case custody =>
    intro m
    rw [handle]
    by_cases here : m = n
    · subst here
      simpa using custody
    · rw [Family.set_of_ne _ _ here]
      apply (h.custody m).elsewhere (spares m here)
  case clean =>
    obtain ⟨es', before, fine⟩ := h.clean
    use es' ++ es
    constructor
    · rw [transcript, before, List.append_assoc]
    · intro e mem
      obtain earlier | later := List.mem_append.mp mem
      · apply fine e earlier
      · apply clean e later

/-- The monitor is told of something that a thread does or is about to do. -/
theorem notify (h : Supervised i start phase made k) {t : Notice} {rest : List Move}
    (ahead : Ahead (.monitor i) p rest)
    (single : transition (k.rig.handle n).byte t.operation ≠ .error .doubleLock)
    (custody : ∀ hd : Handle, hd.locked = (k.rig.handle n).locked →
      hd.owner = (k.rig.handle n).owner →
      (hd.Marked → t.operation = .lock true
        ∨ (k.rig.handle n).Marked ∧ t.operation ≠ .init ∧ t.operation ≠ .unlock) →
      Custody (.monitor i) n hd (phase.set j p) (made ++ [(j, .notify t n (.monitor i))]))
    (spares : ∀ m, m ≠ n →
      (phase j).Spares (.monitor i) m (.notify t n (.monitor i)) p) :
  Supervised i start (phase.set j p) (made ++ [(j, .notify t n (.monitor i))])
    ({ k with rig := k.rig.notify silent t n (.monitor i) }.setThread j
      { k.thread j with todo := rest })
  := by
  obtain ⟨sink, observed⟩ := Rig.observe_eq h.free t.operation n
  have notified : k.rig.notify silent t n (.monitor i) = _ := observed
  rw [notified]
  apply h.advance
  · rfl
  · simp [Monitor.adjust, Guard.put]
  · rfl
  · intro e mem tells
    apply single (Monitor.transition_of_mem_findings mem tells)
  · apply ahead
  · apply custody
    · rfl
    · rfl
    · intro marked
      apply Standing.eq_lock_or_of_after marked
  · apply spares

/-- Every move that a thread makes leads it to another phase, and everything stays
supervised. -/
theorem step? (h : Supervised i start phase made k) (moved : k.step? silent j = some k') :
  ∃ p move, (k.thread j).todo.head? = some move
    ∧ Supervised i start (phase.set j p) (made ++ [(j, move)]) k'
  := by
  have next := h.ahead j
  generalize todo : (k.thread j).todo = moves at next
  generalize at_phase : phase j = q at next
  cases next with
  | done =>
    rw [Machine.step?, todo] at moved
    cases moved
  | @move n _ p' move rest leads after =>
    have spares : ∀ m, m ≠ n → (phase j).Spares (.monitor i) m move p' := by
      intro m other
      rw [at_phase]
      apply leads.spares other
    have same : k.rig.handle = k.rig.handle.set n (k.rig.handle n) :=
      (Family.set_get k.rig.handle n).symm
    simp only [Machine.step?, todo] at moved
    cases leads with
    | seen t l inside =>
      cases moved
      refine ⟨_, _, rfl, h.advance same rfl rfl ?_ after ?_ spares⟩
      · simp [Effect.violation?]
      · apply (h.custody n).notice rfl rfl id (by simp) at_phase.symm
    | init =>
      cases moved
      refine ⟨_, _, rfl, h.notify after nofun ?_ spares⟩
      intro hd locked owner marked
      apply (h.custody n).notice locked owner _ (by simp) at_phase.symm
      intro mark
      obtain lock | ⟨-, other, -⟩ := marked mark
      · cases lock
      · exact absurd rfl other
    | free =>
      cases moved
      refine ⟨_, _, rfl, h.notify after ?_ ?_ spares⟩
      · intro double
        obtain ⟨-, _, lock⟩ := eq_of_doubleLock double
        cases lock
      · intro hd locked owner marked
        apply (h.custody n).notice locked owner _ (by simp) at_phase.symm
        intro mark
        obtain lock | ⟨before, -⟩ := marked mark
        · cases lock
        · apply before
    | acquire =>
      by_cases taken : (k.rig.handle n).locked = true
      · simp only [taken, ↓reduceIte] at moved
        cases moved
      · simp only [taken] at moved
        cases moved
        refine ⟨_, _, rfl, h.advance rfl rfl (List.append_nil _).symm nofun after ?_ spares⟩
        apply (h.custody n).acquire (by simpa using taken)
    | claim =>
      cases moved
      refine ⟨_, _, rfl, h.advance rfl rfl (List.append_nil _).symm nofun after ?_ spares⟩
      apply (h.custody n).claim at_phase
    | lock =>
      cases moved
      refine ⟨_, _, rfl, h.notify after ?_ ?_ spares⟩
      · intro double
        obtain ⟨marked, -⟩ := eq_of_doubleLock double
        apply (h.custody n).unmarked (.inr (.inl at_phase)) marked
      · intro hd locked owner _
        apply (h.custody n).lock at_phase locked owner
    | unlock =>
      cases moved
      refine ⟨_, _, rfl, h.notify after ?_ ?_ spares⟩
      · intro double
        obtain ⟨-, _, lock⟩ := eq_of_doubleLock double
        cases lock
      · intro hd locked owner marked
        apply (h.custody n).unlock at_phase locked owner
        intro mark
        obtain lock | ⟨-, -, other⟩ := marked mark
        · cases lock
        · exact absurd rfl other
    | disown =>
      obtain ⟨rest, rfl, finished⟩ := after.of_disowned
      by_cases owner : (k.rig.handle n).owner = some (.started j)
      · simp only [Handle.disown?, owner, ↓reduceIte] at moved
        cases moved
        refine ⟨_, _, rfl, h.advance rfl rfl (List.append_nil _).symm nofun after ?_ spares⟩
        apply (h.custody n).disown at_phase owner
      · simp only [Handle.disown?, owner, ↓reduceIte] at moved
        cases moved
        -- The unlock is refused, so the thread is outside at once.
        have outside : ∀ m, m ≠ n → (phase j).Spares (.monitor i) m (.disown n) .outside := by
          intro m other
          simp [Phase.Spares, Phase.About, Phase.Engaged, at_phase, other.symm]
        refine ⟨.outside, _, rfl, h.advance same rfl (List.append_nil _).symm nofun finished ?_
          outside⟩
        apply (h.custody n).refuse at_phase owner
    | release =>
      cases moved
      refine ⟨_, _, rfl, h.advance rfl rfl (List.append_nil _).symm nofun after ?_ spares⟩
      apply (h.custody n).release at_phase

/-- Everything stays supervised in whichever order the threads move. -/
theorem run (h : Supervised i start phase made k) (schedule : List Nat) :
  ∃ phase', Supervised i start phase' (made ++ k.made silent schedule) (k.run silent schedule)
  := by
  apply made_induction (P := fun made k => ∃ phase, Supervised i start phase made k) _ ⟨phase, h⟩
  rintro made k k' j ⟨phase, h⟩ moved
  obtain ⟨p, move, head, after⟩ := h.step? moved
  exact ⟨move, head, _, after⟩

end Supervised

end Machine

namespace Rig

variable {σ : Type} {r : Rig σ} {i x : Nat}

/-- Threads that make calls through context `x`, which has a native primitive, thread `j`
the calls `calls j`. -/
def callers (x : Nat) (calls : Nat → List (Call × Nat)) (r : Rig σ) : Machine σ where
  rig := r
  thread j := { todo := (calls j).flatMap fun q => q.1.moves (r.context x).observers q.2 }

/-- Threads set out supervised, whatever calls they are going to make. -/
theorem supervised_callers [Sink σ] (inactive : (r.monitor i).replaced = none)
    (free : (r.monitor i).tally.held = false)
    (alone : ∀ j, .monitor j ∉ (r.context x).observers)
    (created : ∀ m, ∃ b, b ≠ LockState.locked.byte ∧ r.handle m = .ofByte b)
    (calls : Nat → List (Call × Nat)) :
  ((r.enable i x).2.callers x calls).Supervised i (r.enable i x).2.transcript
    (fun _ => .outside) []
  := by
  obtain ⟨_, old, d, primitives, s, enabled⟩ := enable_eq (x := x) inactive
  constructor
  case free =>
    simp only [callers, enabled, Family.set_self]
    apply free
  case ahead =>
    intro j
    apply Ahead.calls (sole_enable inactive alone)
  case custody =>
    intro m
    obtain ⟨b, unmarked, eq⟩ := created m
    have same : ((r.enable i x).2.callers x calls).rig.handle m = .ofByte b := by
      simp only [callers, enabled, eq]
    rw [same]
    refine .vacant rfl rfl unmarked ?_
    simp
  case clean => exact ⟨[], (List.append_nil _).symm, nofun⟩

/-- Whatever calls threads make through the context of an enabled monitor, and in whichever
order they move, a handle whose state is locked has its platform lock held by a thread that
has told the monitor of the lock and not yet of the unlock, and nobody is told of a double
lock. -/
theorem held_of_locked [Sink σ] {r : Rig σ} {i x : Nat}
    (inactive : (r.monitor i).replaced = none) (free : (r.monitor i).tally.held = false)
    (alone : ∀ j, .monitor j ∉ (r.context x).observers)
    (created : ∀ m, ∃ b, b ≠ LockState.locked.byte ∧ r.handle m = .ofByte b)
    (calls : Nat → List (Call × Nat)) (schedule : List Nat) :
  let start := (r.enable i x).2
  let threads := start.callers x calls
  let after := (threads.run silent schedule).rig
  (∀ m, (after.handle m).state? = some .locked →
      ∃ j pre post, threads.made silent schedule = pre ++ (j, .acquire m) :: post
        ∧ (∀ l, (l, .acquire m) ∉ post ∧ (l, .release m) ∉ post)
        ∧ (after.handle m).locked = true ∧ (after.handle m).owner = some (.started j)
        ∧ (j, .notify (.locked .ok) m (.monitor i)) ∈ post
        ∧ (j, .notify .unlocking m (.monitor i)) ∉ post)
    ∧ ∃ es, after.transcript = start.transcript ++ es
      ∧ ∀ e ∈ es, e.violation? ≠ some .doubleLock
  := by
  intro start threads after
  have begins := supervised_callers inactive free alone created calls
  obtain ⟨phase, ends⟩ := begins.run schedule
  rw [List.nil_append] at ends
  constructor
  · intro m locked
    have marked : (after.handle m).Marked := LockState.ofByte?_eq_some_iff.mp locked
    cases ends.custody m with
    | vacant _ _ unmarked _ => exact absurd marked unmarked
    | @held j pre post split quiet taken grip others =>
      obtain ⟨-, owner, told, untold⟩ := grip.of_marked marked
      exact ⟨j, pre, post, split, quiet, taken, owner, told, untold⟩
  · apply ends.clean

/-- The calls of two rivals over one handle: one initialises it and locks it, and the other
unlocks it and locks it. -/
def rivals : Nat → List (Call × Nat)
  | 0 => [(.init, 0), (.lock, 0)]
  | 1 => [(.unlock, 0), (.lock, 0)]
  | _ => []

/-- A rig over native primitives whose handles are corrupted. -/
def garbled : Rig CaseRecord :=
  { (⟨.substitute, 2, 0, false⟩ : Contest).rig with handle := fun _ => .ofByte 7 }

/-- The second of two rivals is refused its unlock, and waits for its lock, while the first
locks a handle over corrupted memory. -/
theorem held_of_locked_by_rivals :
  let start := (garbled.enable 0 0).2
  let threads := start.callers 0 rivals
  let schedule := [0, 1, 1, 0, 0, 1, 0]
  let after := (threads.run silent schedule).rig
  (after.handle 0).state? = some .locked
    ∧ (∃ j pre post, threads.made silent schedule = pre ++ (j, .acquire 0) :: post
      ∧ (∀ l, (l, .acquire 0) ∉ post ∧ (l, .release 0) ∉ post)
      ∧ (after.handle 0).locked = true ∧ (after.handle 0).owner = some (.started j)
      ∧ (j, .notify (.locked .ok) 0 (.monitor 0)) ∈ post
      ∧ (j, .notify .unlocking 0 (.monitor 0)) ∉ post)
    ∧ ∃ es, after.transcript = start.transcript ++ es
      ∧ ∀ e ∈ es, e.violation? ≠ some .doubleLock
  := by
  obtain ⟨held, single⟩ := held_of_locked (r := garbled) (i := 0) (x := 0) rfl rfl
    (fun _ => List.not_mem_nil) (fun _ => ⟨7, by decide, rfl⟩) rivals [0, 1, 1, 0, 0, 1, 0]
  exact ⟨by decide +kernel, held 0 (by decide +kernel), single⟩

end Rig

end LockDiscipline
