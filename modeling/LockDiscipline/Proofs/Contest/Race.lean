import LockDiscipline.Proofs.Contest.Stance
import LockDiscipline.Proofs.Installation
import LockDiscipline.Proofs.Machine

/-!
# The race

`Contest.Racing` is what holds of the threads of a contest at every moment, in whichever
order they move: every thread has an orderly program left, at most one thread is not away
from the shared handle, and the handles, the tally and the counter are as the stances and
the moves left say.  A step of a thread keeps it (`Racing.step`), hence so does every
schedule (`Racing.run`).  As long as a thread has something left to do some thread can move
(`Racing.exists_step`), so every schedule can be completed (`Racing.exists_finished`).
-/

namespace LockDiscipline

open Contest

namespace Rig

variable {σ : Type}

/-- The rig with other handles and another number of live handles. -/
def counted (handle : Family Handle) (live : Int) (r : Rig σ) : Rig σ :=
  { r with
    handle := handle
    monitor := r.monitor.set 0 ((r.monitor 0).adjust fun t => { t with live := live }) }

theorem counted_change (r : Rig σ) (f : Family Handle) (live : Int) (m : Nat) (h : Handle)
    (d : Int) :
  ((r.counted f live).setHandle m h).adjust 0 (·.count d) = r.counted (f.set m h) (live + d)
  := by simp [counted, setHandle, adjust, setMonitor, Monitor.adjust, Guard.put, Tally.count]

theorem held_counted (r : Rig σ) (f : Family Handle) (live : Int) :
  ((r.counted f live).monitor 0).tally.held = (r.monitor 0).tally.held
  := by simp [counted, Monitor.adjust, Guard.put]

theorem adjust_count_zero (r : Rig σ) (i : Nat) :
  r.adjust i (·.count 0) = r
  := by simp [adjust, setMonitor, Monitor.adjust, Guard.put, Tally.count]

/-- The notices of an orderly thread are not violations. -/
theorem notify_of_leads [Sink σ] {r : Rig σ} (free : (r.monitor 0).tally.held = false)
    {i m : Nat} {s s' : Stance} {n : Notice} {o : Observer} (stands : r.handle m = s.handle i)
    (leads : s.Leads (.notify n m o) s') :
  r.notify silent n m o
    = (r.setHandle m (s'.handle i)).adjust 0 (·.count (s'.weight - s.weight))
  := by
  obtain ⟨rfl, legal, marked⟩ := leads.transition_eq
  rw [← marked i, ← stands]
  apply observe_of_ok (c := ⟨s'.state, s'.weight - s.weight⟩) free
  rw [stands]
  apply legal

end Rig

/-- A thread at a stance that its next move leads on from makes that move, and then the
handle is at the next stance. -/
theorem Machine.step?_of_leads {σ : Type} [Sink σ] {k : Machine σ} {i : Nat} {move : Move}
    {rest : List Move} {s s' : Stance} (free : (k.rig.monitor 0).tally.held = false)
    (todo : (k.thread i).todo = move :: rest)
    (stands : k.rig.handle move.target = s.handle i) (leads : s.Leads move s') :
  ∃ statuses, k.step? silent i = some
    { rig := (k.rig.setHandle move.target (s'.handle i)).adjust 0
        (·.count (s'.weight - s.weight))
      thread := k.thread.set i
        ⟨rest, if move = .load then k.counter else (k.thread i).register, statuses⟩
      counter := if move = .store then (k.thread i).register + 1 else k.counter }
  := by
  simp only [step?, todo]
  cases move with
  | notify n m o =>
    use (k.thread i).statuses
    simp only [Rig.notify_of_leads (m := m) free stands leads]
    rfl
  | acquire m =>
    cases leads
    have away : k.rig.handle m = Stance.away.handle i := stands
    have unlocked : (Stance.away.handle i).locked = false := rfl
    use (k.thread i).statuses
    simp only [away, unlocked, Bool.false_eq_true, ↓reduceIte, Move.target, Stance.weight,
      Int.sub_self, Rig.adjust_count_zero]
    rfl
  | claim m =>
    cases leads
    have acquired : k.rig.handle m = Stance.acquired.handle i := stands
    use (k.thread i).statuses ++ [.ok]
    simp only [acquired, Move.target, Stance.weight, Int.sub_self, Rig.adjust_count_zero]
    rfl
  | disown m =>
    cases leads
    have parting : k.rig.handle m = Stance.parting.handle i := stands
    have disowned : (Stance.parting.handle i).disown? (.started i)
        = some (Stance.disowned.handle i) := by
      simp [Stance.handle, Handle.disown?, Stance.state]
    use (k.thread i).statuses
    simp only [parting, disowned, Move.target, Stance.weight, Int.sub_self,
      Rig.adjust_count_zero]
    rfl
  | release m =>
    cases leads
    have disowned : k.rig.handle m = Stance.disowned.handle i := stands
    use (k.thread i).statuses ++ [.ok]
    simp only [disowned, Move.target, Stance.weight, Int.sub_self, Rig.adjust_count_zero]
    rfl
  | load =>
    cases leads
    have holding : k.rig.handle shared = Stance.reading.handle i := stands
    use (k.thread i).statuses
    simp only [← holding, Rig.setHandle, Family.set_get, Move.target, Stance.weight,
      Int.sub_self, Rig.adjust_count_zero]
    rfl
  | store =>
    cases leads
    have reading : k.rig.handle shared = Stance.holding.handle i := stands
    use (k.thread i).statuses
    simp only [← reading, Rig.setHandle, Family.set_get, Move.target, Stance.weight,
      Int.sub_self, Rig.adjust_count_zero]
    rfl

/-! ### The invariant -/

/-- The threads of a contest in the middle of a race that was started on the rig `start`:
thread `i` is at the stance `a i` with the shared handle and at `b i` with its own. -/
structure Contest.Racing (c : Contest) (start : Rig CaseRecord) (a b : Family Stance)
    (k : Machine CaseRecord) : Prop where
  rig : k.rig = start.counted k.rig.handle
    ((start.monitor 0).tally.value.live + ∑ i ∈ Finset.range c.threads, (b i).weight)
  orderly : ∀ i < c.threads, Orderly i c.lastStance (a i) (b i) (k.thread i).todo
  absent : ∀ i, c.threads ≤ i → (k.thread i).todo = [] ∧ a i = .away
  shared : ∃ i, k.rig.handle Contest.shared = (a i).handle i ∧ ∀ j, j ≠ i → a j = .away
  born : ∀ i, a i ≠ .unborn
  own : ∀ i < c.threads, k.rig.handle (Contest.own i) = (b i).handle i
  register : ∀ i, a i = .reading → (k.thread i).register = k.counter
  counter : k.counter + ∑ i ∈ Finset.range c.threads, (k.thread i).todo.count .store
    = c.threads * c.rounds

namespace Contest.Racing

variable {c : Contest} {start : Rig CaseRecord} {a b : Family Stance}
  {k : Machine CaseRecord} {i : Nat} {move : Move} {rest : List Move}

theorem free (h : c.Racing start a b k) (free : (start.monitor 0).tally.held = false) :
  (k.rig.monitor 0).tally.held = false
  := by rw [h.rig, Rig.held_counted, free]

/-- If a thread is not away from the shared handle, or nobody has its platform lock, then
all others are away. -/
theorem alone (h : c.Racing start a b k)
    (ready : a i ≠ .away ∨ (k.rig.handle Contest.shared).locked = false) :
  k.rig.handle Contest.shared = (a i).handle i ∧ ∀ j, j ≠ i → a j = .away
  := by
  obtain ⟨holder, stands, away⟩ := h.shared
  by_cases same : i = holder
  · subst same
    exact ⟨stands, away⟩
  · have rests : a i = .away := away i same
    have unlocked := ready.resolve_left (fun busy => busy rests)
    rw [stands] at unlocked
    have all : a holder = .away := Stance.eq_away unlocked (h.born holder)
    constructor
    · rw [stands, all, rests]
      rfl
    · intro j _
      by_cases here : j = holder
      · rw [here, all]
      · apply away j here

/-- What a move of thread `i` leaves as it is: the orderly programs, the threads that do not
take part, the register of a thread that has read the counter, and the sum of the counter
and the writes left. -/
theorem advance (h : c.Racing start a b k) (inside : i < c.threads)
    (todo : (k.thread i).todo = move :: rest) {a' b' : Family Stance} {r : Rig CaseRecord}
    {statuses : List Status} (others : ∀ j, j ≠ i → a' j = a j ∧ b' j = b j)
    (after : Orderly i c.lastStance (a' i) (b' i) rest) (born : a' i ≠ .unborn)
    (rig : r = start.counted r.handle
      ((start.monitor 0).tally.value.live + ∑ i ∈ Finset.range c.threads, (b' i).weight))
    (shared : ∃ i, r.handle Contest.shared = (a' i).handle i ∧ ∀ j, j ≠ i → a' j = .away)
    (own : ∀ i < c.threads, r.handle (Contest.own i) = (b' i).handle i)
    (read : a' i = .reading → move = .load ∨ a i = .reading ∧ move ≠ .store)
    (stored : move = .store → a i = .reading ∧ ∀ j, j ≠ i → a j = .away) :
  c.Racing start a' b'
    { rig := r
      thread := k.thread.set i
        ⟨rest, if move = .load then k.counter else (k.thread i).register, statuses⟩
      counter := if move = .store then (k.thread i).register + 1 else k.counter }
  := by
  constructor
  case rig => apply rig
  case shared => apply shared
  case own => apply own
  case orderly =>
    intro j within
    by_cases here : j = i
    · subst here
      simpa using after
    · simpa [here, others] using h.orderly j within
  case absent =>
    intro j out
    have there : j ≠ i := by omega
    simpa [there, others] using h.absent j out
  case born =>
    intro j
    by_cases here : j = i
    · rw [here]
      apply born
    · rw [(others j here).1]
      apply h.born
  case register =>
    intro j reading
    by_cases here : j = i
    · subst here
      obtain rfl | ⟨before, unwritten⟩ := read reading
      · simp
      · simp [unwritten, h.register j before]
    · rw [(others j here).1] at reading
      have unwritten : move ≠ .store := by
        intro store
        rw [(stored store).2 j here] at reading
        cases reading
      simp [here, unwritten, h.register j reading]
  case counter =>
    have moved := Family.sum_set (Finset.mem_range.mpr inside) k.thread
      ⟨rest, if move = .load then k.counter else (k.thread i).register, statuses⟩
      (fun t => t.todo.count .store)
    have total := h.counter
    rw [todo] at moved
    by_cases store : move = .store
    · have register := h.register i (stored store).1
      simp only [store, List.count_cons_self, ↓reduceIte] at moved ⊢
      omega
    · simp only [store, List.count_cons_of_ne store, ↓reduceIte] at moved ⊢
      omega

/-- A move on the shared handle. -/
theorem move_shared (h : c.Racing start a b k) (free : (start.monitor 0).tally.held = false)
    (inside : i < c.threads) (todo : (k.thread i).todo = move :: rest)
    (target : move.target = Contest.shared) {s : Stance} (leads : (a i).Leads move s)
    (born : s ≠ .unborn) (after : Orderly i c.lastStance s (b i) rest)
    (ready : a i ≠ .away ∨ (k.rig.handle Contest.shared).locked = false) :
  ∃ k', k.step? silent i = some k' ∧ c.Racing start (a.set i s) b k'
  := by
  obtain ⟨stands, away⟩ := h.alone ready
  obtain ⟨statuses, step⟩ :=
    Machine.step?_of_leads (h.free free) todo (target ▸ stands) leads
  refine ⟨_, step, ?_⟩
  rw [leads.weight_eq (h.born i) born, Rig.adjust_count_zero, target]
  apply h.advance inside todo
  case others =>
    intro j there
    simp [there]
  case after => simpa using after
  case born => simpa using born
  case rig =>
    rw [h.rig]
    rfl
  case shared =>
    use i
    simp only [Rig.setHandle, Family.set_self, true_and]
    intro j there
    simpa [there] using away j there
  case own =>
    intro j within
    have apart : Contest.own j ≠ Contest.shared := Nat.succ_ne_zero j
    simpa [Rig.setHandle, apart] using h.own j within
  case read =>
    intro reading
    rw [Family.set_self] at reading
    subst reading
    left
    apply leads.eq_load
  case stored =>
    rintro rfl
    exact ⟨leads.eq_reading, away⟩

/-- A move of a thread on its own handle. -/
theorem move_own (h : c.Racing start a b k) (free : (start.monitor 0).tally.held = false)
    (inside : i < c.threads) (todo : (k.thread i).todo = move :: rest)
    (target : move.target = Contest.own i) {s : Stance} (leads : (b i).Leads move s)
    (after : Orderly i c.lastStance (a i) s rest) :
  ∃ k', k.step? silent i = some k' ∧ c.Racing start a (b.set i s) k'
  := by
  have stands := h.own i inside
  obtain ⟨statuses, step⟩ :=
    Machine.step?_of_leads (h.free free) todo (target ▸ stands) leads
  refine ⟨_, step, ?_⟩
  have unwritten : move ≠ .store := by
    rintro rfl
    cases target
  rw [target]
  apply h.advance inside todo
  case others =>
    intro j there
    simp [there]
  case after => simpa using after
  case born => apply h.born
  case rig =>
    have moved := Family.sum_set (Finset.mem_range.mpr inside) b s Stance.weight
    rw [h.rig, Rig.counted_change]
    congr 1
    omega
  case shared =>
    have apart : Contest.shared ≠ Contest.own i := (Nat.succ_ne_zero i).symm
    simpa [Rig.setHandle, Rig.adjust, Rig.setMonitor, apart] using h.shared
  case own =>
    intro j within
    by_cases here : j = i
    · subst here
      simp [Rig.setHandle, Rig.adjust, Rig.setMonitor]
    · have apart : Contest.own j ≠ Contest.own i := by simpa [Contest.own] using here
      simpa [Rig.setHandle, Rig.adjust, Rig.setMonitor, apart, here] using h.own j within
  case read =>
    intro reading
    right
    exact ⟨reading, unwritten⟩
  case stored =>
    intro store
    exact absurd store unwritten

/-! ### Steps -/

/-- A thread is done, or it waits for the platform lock of the shared handle, or it moves,
and the race goes on. -/
theorem step?_cases (h : c.Racing start a b k) (free : (start.monitor 0).tally.held = false)
    (inside : i < c.threads) :
  ((k.thread i).todo = [] ∧ a i = .away ∧ b i = c.lastStance)
    ∨ (k.step? silent i = none ∧ a i = .away
        ∧ (k.rig.handle Contest.shared).locked = true)
    ∨ (∃ k' a' b', k.step? silent i = some k' ∧ c.Racing start a' b' k')
  := by
  obtain done | ⟨move, rest, s, todo, target, leads, born, after⟩ |
    ⟨move, rest, s, todo, target, leads, after⟩ := (h.orderly i inside).inv
  · left
    exact done
  · right
    by_cases ready : a i ≠ .away ∨ (k.rig.handle Contest.shared).locked = false
    · right
      obtain ⟨k', step, racing⟩ :=
        h.move_shared free inside todo target leads born after ready
      exact ⟨k', _, _, step, racing⟩
    · left
      simp only [ne_eq, not_or, not_not, Bool.not_eq_false] at ready
      obtain ⟨away, locked⟩ := ready
      rw [away] at leads
      obtain ⟨m, rfl⟩ := leads.eq_acquire born
      obtain rfl : m = Contest.shared := target
      refine ⟨?_, away, locked⟩
      simp only [Machine.step?, todo, locked, ↓reduceIte]
  · right; right
    obtain ⟨k', step, racing⟩ := h.move_own free inside todo target leads after
    exact ⟨k', _, _, step, racing⟩

/-- The race goes on with every step. -/
theorem step (h : c.Racing start a b k) (free : (start.monitor 0).tally.held = false)
    (i : Nat) :
  ∃ a' b', c.Racing start a' b' (k.step silent i)
  := by
  rw [Machine.step]
  by_cases inside : i < c.threads
  · obtain ⟨todo, -⟩ | ⟨waits, -⟩ | ⟨k', a', b', step, racing⟩ := h.step?_cases free inside
    · use a, b
      simpa [Machine.step?, todo] using h
    · use a, b
      simpa [waits] using h
    · use a', b'
      simpa [step] using racing
  · obtain ⟨todo, -⟩ := h.absent i (by omega)
    use a, b
    simpa [Machine.step?, todo] using h

/-- The race goes on in whichever order the threads move. -/
theorem run (h : c.Racing start a b k) (free : (start.monitor 0).tally.held = false)
    (schedule : List Nat) :
  ∃ a' b', c.Racing start a' b' (k.run silent schedule)
  := by
  induction schedule generalizing k a b with
  | nil => exact ⟨a, b, h⟩
  | cons i schedule ih =>
    obtain ⟨a', b', racing⟩ := h.step free i
    apply ih racing

/-! ### Progress -/

/-- As long as a thread has something left to do some thread can move: if it waits for the
shared handle, then the holder of that handle. -/
theorem exists_step (h : c.Racing start a b k) (free : (start.monitor 0).tally.held = false)
    (unfinished : k.finished c.threads = false) :
  ∃ i < c.threads, ∃ k', k.step? silent i = some k'
  := by
  obtain ⟨i, inside, todo⟩ : ∃ i < c.threads, (k.thread i).todo ≠ [] := by
    simpa [Machine.finished] using unfinished
  obtain ⟨none, -⟩ | ⟨-, -, locked⟩ | ⟨k', -, -, step, -⟩ := h.step?_cases free inside
  · exact absurd none todo
  · obtain ⟨holder, stands, -⟩ := h.shared
    have busy : a holder ≠ .away := by
      intro rests
      rw [stands, rests] at locked
      cases locked
    have within : holder < c.threads := by
      by_contra out
      apply busy (h.absent holder (by omega)).2
    obtain ⟨-, rests, -⟩ | ⟨-, rests, -⟩ | ⟨k', -, -, step, -⟩ := h.step?_cases free within
    · exact absurd rests busy
    · exact absurd rests busy
    · use holder, within, k'
  · use i, inside, k'

/-- Every race can be brought to its end. -/
theorem exists_finished (h : c.Racing start a b k)
    (free : (start.monitor 0).tally.held = false) :
  ∃ schedule, (k.run silent schedule).finished c.threads = true
  := by
  induction left : k.remaining c.threads using Nat.strong_induction_on generalizing k a b with
  | _ _ ih =>
    cases finished : k.finished c.threads with
    | true => use [], finished
    | false =>
      obtain ⟨i, inside, k', moved⟩ := h.exists_step free finished
      obtain ⟨a', b', racing⟩ := h.step free i
      rw [Machine.step_of_step? moved] at racing
      obtain ⟨schedule, done⟩ := ih _ (left ▸ Machine.remaining_lt inside moved) racing rfl
      use i :: schedule
      rwa [Machine.run, List.foldl_cons, Machine.step_of_step? moved]

end Contest.Racing

end LockDiscipline
