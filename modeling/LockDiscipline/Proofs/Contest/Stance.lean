import Mathlib.Tactic.Use
import LockDiscipline.Contest

/-!
# Stances

A `Stance` says where a thread is with a handle that it initialises, locks, unlocks and
frees in order, as the moves of a call leave off; while the thread holds the shared handle
it also says whether a number was read that is not yet written back.  A stance determines
the handle (`Stance.handle`), and each move leads from one stance to the next
(`Stance.Leads`).

`Orderly i z a b moves` says that thread `i` stands at `a` with the shared handle and at `b`
with its own, and that the moves it has left lead away from the shared handle and to `z`
with its own.  The programs of a contest are orderly.
-/

namespace LockDiscipline

/-- The observer in a contest. -/
def Contest.watcher : Observer := .monitor 0

/-- Where a thread is with a handle. -/
inductive Stance where
  /-- The handle is not initialised, or freed again. -/
  | unborn
  /-- The thread does not hold the handle. -/
  | away
  /-- The thread has the platform lock, and no owner is recorded. -/
  | acquired
  /-- The thread is the owner, and nobody was told of the lock. -/
  | claimed
  /-- The lock is complete. -/
  | holding
  /-- The lock is complete, and the shared counter was read and not yet written. -/
  | reading
  /-- The monitor was told of the unlock, and the thread is still the owner. -/
  | parting
  /-- The thread has the platform lock, and is the owner no more. -/
  | disowned
  deriving DecidableEq, Repr

namespace Stance

open Contest

/-- The byte of a handle with which thread `i` is at a stance, and everybody else away. -/
def state : Stance → LockState
  | unborn => .freed
  | holding | reading => .locked
  | _ => .idle

/-- A handle with which thread `i` is at a stance, and everybody else away. -/
def handle (i : Nat) (s : Stance) : Handle where
  byte := s.state.byte
  locked := s ≠ unborn ∧ s ≠ away
  owner := if s ∈ [claimed, holding, reading, parting] then some (.started i) else none

/-- How much a handle counts as live: not at all before its initialisation and after its
release. -/
def weight : Stance → Int
  | unborn => 0
  | _ => 1

/-- A move leads from a stance to another. -/
inductive Leads : Stance → Move → Stance → Prop
  | init (m : Nat) : Leads unborn (.notify .initialised m watcher) away
  | acquire (m : Nat) : Leads away (.acquire m) acquired
  | claim (m : Nat) : Leads acquired (.claim m) claimed
  | lock (m : Nat) : Leads claimed (.notify (.locked .ok) m watcher) holding
  | load : Leads holding .load reading
  | store : Leads reading .store holding
  | unlock (m : Nat) : Leads holding (.notify .unlocking m watcher) parting
  | disown (m : Nat) : Leads parting (.disown m) disowned
  | release (m : Nat) : Leads disowned (.release m) away
  | free (m : Nat) : Leads away (.notify .freeing m watcher) unborn

namespace Leads

variable {s s' : Stance} {move : Move}

/-- The moves that the monitor is told of are legal, count by the difference in weight, and
mark the handle as the next stance has it. -/
theorem transition_eq {n : Notice} {m : Nat} {o : Observer} (h : s.Leads (.notify n m o) s') :
  o = watcher ∧ transition s.state.byte n.operation = .ok ⟨s'.state, s'.weight - s.weight⟩
    ∧ ∀ i, (s.handle i).mark s'.state = s'.handle i
  := by
  cases h with
  | init m => exact ⟨rfl, rfl, fun _ => rfl⟩
  | lock m => exact ⟨rfl, rfl, fun _ => rfl⟩
  | unlock m => exact ⟨rfl, rfl, fun _ => rfl⟩
  | free m => exact ⟨rfl, rfl, fun _ => rfl⟩

/-- Only a read leads to `reading`. -/
theorem eq_load (h : s.Leads move .reading) :
  move = .load
  := by
  cases h
  rfl

/-- Only `reading` leads on by a write. -/
theorem eq_reading (h : s.Leads .store s') :
  s = .reading
  := by
  cases h
  rfl

/-- A thread that is away either frees the handle or takes the platform lock. -/
theorem eq_acquire (h : away.Leads move s) (born : s ≠ .unborn) :
  ∃ m, move = .acquire m
  := by
  cases h with
  | acquire m => use m
  | free m => exact absurd rfl born

/-- Between stances at which the handle is live nothing is counted. -/
theorem weight_eq (h : s.Leads move s') (before : s ≠ .unborn) (born : s' ≠ .unborn) :
  s'.weight - s.weight = 0
  := by
  cases h with
  | init m => exact absurd rfl before
  | free m => exact absurd rfl born
  | _ => rfl

end Leads

/-- A handle whose platform lock is free and which is live has everybody away. -/
theorem eq_away {s : Stance} {i : Nat} (unlocked : (s.handle i).locked = false)
    (born : s ≠ .unborn) :
  s = .away
  := by
  cases s with
  | unborn => exact absurd rfl born
  | away => rfl
  | _ => cases unlocked

end Stance

/-- The handle that a move is about.  The shared counter goes with the shared handle. -/
def Move.target : Move → Nat
  | .acquire m | .claim m | .disown m | .release m | .notify _ m _ => m
  | .load | .store => Contest.shared

/-! ### Orderly programs -/

open Contest

/-- The moves lead thread `i` from the stances `a` and `b` with the shared handle and with
its own to `away` and `z`, and the shared handle is neither initialised nor freed. -/
inductive Orderly (i : Nat) (z : Stance) : Stance → Stance → List Move → Prop
  | done : Orderly i z .away z []
  | shared {a a' b : Stance} {move : Move} {rest : List Move} :
      move.target = Contest.shared → a.Leads move a' → a' ≠ .unborn →
      Orderly i z a' b rest → Orderly i z a b (move :: rest)
  | own {a b b' : Stance} {move : Move} {rest : List Move} :
      move.target = Contest.own i → b.Leads move b' →
      Orderly i z a b' rest → Orderly i z a b (move :: rest)

namespace Orderly

variable {i : Nat} {z a b : Stance} {todo rest : List Move}

/-- A thread is done, or its next move is one on the shared handle or one on its own. -/
theorem inv (h : Orderly i z a b todo) :
  (todo = [] ∧ a = .away ∧ b = z)
    ∨ (∃ move rest s, todo = move :: rest ∧ move.target = Contest.shared ∧ a.Leads move s
        ∧ s ≠ .unborn ∧ Orderly i z s b rest)
    ∨ (∃ move rest s, todo = move :: rest ∧ move.target = Contest.own i ∧ b.Leads move s
        ∧ Orderly i z a s rest)
  := by
  cases h with
  | done =>
    left
    exact ⟨rfl, rfl, rfl⟩
  | shared target leads born after =>
    right; left
    exact ⟨_, _, _, rfl, target, leads, born, after⟩
  | own target leads after =>
    right; right
    exact ⟨_, _, _, rfl, target, leads, after⟩

theorem lock_shared (h : Orderly i z .holding b rest) :
  Orderly i z .away b (Call.lock.moves [watcher] Contest.shared ++ rest)
  := by
  apply shared rfl (.acquire _) nofun
  apply shared rfl (.claim _) nofun
  apply shared rfl (.lock _) nofun h

theorem unlock_shared (h : Orderly i z .away b rest) :
  Orderly i z .holding b (Call.unlock.moves [watcher] Contest.shared ++ rest)
  := by
  apply shared rfl (.unlock _) nofun
  apply shared rfl (.disown _) nofun
  apply shared rfl (.release _) nofun h

theorem count (h : Orderly i z .holding b rest) :
  Orderly i z .holding b (.load :: .store :: rest)
  := by
  apply shared rfl .load nofun
  apply shared rfl .store nofun h

theorem lock_own (h : Orderly i z a .holding rest) :
  Orderly i z a .away (Call.lock.moves [watcher] (Contest.own i) ++ rest)
  := by
  apply own rfl (.acquire _)
  apply own rfl (.claim _)
  apply own rfl (.lock _) h

theorem unlock_own (h : Orderly i z a .away rest) :
  Orderly i z a .holding (Call.unlock.moves [watcher] (Contest.own i) ++ rest)
  := by
  apply own rfl (.unlock _)
  apply own rfl (.disown _)
  apply own rfl (.release _) h

theorem round (h : Orderly i z .away .away rest) :
  Orderly i z .away .away (Contest.round [watcher] i ++ rest)
  := by
  simp only [Contest.round, List.append_assoc]
  apply lock_shared
  apply count
  apply unlock_shared
  apply lock_own
  apply unlock_own h

theorem rounds (n : Nat) (h : Orderly i z .away .away rest) :
  Orderly i z .away .away ((List.replicate n (Contest.round [watcher] i)).flatten ++ rest)
  := by
  induction n with
  | zero => apply h
  | succ n ih =>
    rw [List.replicate_succ, List.flatten_cons, List.append_assoc]
    apply round ih

end Orderly

namespace Contest

/-- Where a thread is with its own handle at the end. -/
def lastStance (c : Contest) : Stance := if c.leak then .away else .unborn

/-- The programs of a contest are orderly. -/
theorem orderly_program (c : Contest) (i : Nat) :
  Orderly i c.lastStance .away .unborn (c.program [watcher] i)
  := by
  rw [program, List.append_assoc]
  apply Orderly.own rfl (.init _)
  apply Orderly.rounds
  cases leak : c.leak with
  | true =>
    simp only [lastStance, leak]
    apply Orderly.done
  | false =>
    simp only [lastStance, leak]
    apply Orderly.own rfl (.free _)
    apply Orderly.done

/-- In every round the counter is written once. -/
theorem count_store_program (c : Contest) (i : Nat) :
  (c.program [watcher] i).count .store = c.rounds
  := by
  have round : (round [watcher] i).count .store = 1 := by
    simp [Contest.round, Call.moves]
  cases leak : c.leak with
  | true => simp [program, Call.moves, List.count_flatten, round, leak]
  | false => simp [program, Call.moves, List.count_flatten, round, leak]

end Contest

end LockDiscipline
