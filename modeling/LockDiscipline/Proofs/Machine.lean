import Mathlib.Algebra.BigOperators.Group.Finset.Basic
import Mathlib.Algebra.Order.BigOperators.Group.Finset
import Mathlib.Tactic.Use
import LockDiscipline.Interleaving
import LockDiscipline.Proofs.Layers

/-!
# Threads that get on

A thread that moves has less left to do, and the other threads have what they had.  Hence
`Machine.remaining`, the number of moves that the first `n` threads have left, goes down
with every move of one of them.  A thread that nobody interrupts makes its calls as a context
serves them (`Machine.alone_call`).
-/

namespace LockDiscipline

/-- A sum over a family of which one object is replaced. -/
theorem Family.sum_set {α M : Type} [AddCommMonoid M] {ns : Finset Nat} {i : Nat}
    (mem : i ∈ ns) (f : Family α) (a : α) (g : α → M) :
  ∑ j ∈ ns, g (f.set i a j) + g (f i) = ∑ j ∈ ns, g (f j) + g a
  := by
  have rest : ∑ j ∈ ns.erase i, g (f.set i a j) = ∑ j ∈ ns.erase i, g (f j) := by
    apply Finset.sum_congr rfl
    intro j other
    rw [Family.set_of_ne f a (Finset.ne_of_mem_erase other)]
  rw [← Finset.sum_erase_add _ _ mem, ← Finset.sum_erase_add _ (fun j => g (f j)) mem, rest,
    Family.set_self]
  ac_rfl

namespace Machine

variable {σ : Type} [Sink σ] {R : Responder σ} {k k' : Machine σ} {i : Nat}

theorem step_of_step? (moved : k.step? R i = some k') :
  k.step R i = k'
  := by
  rw [step, moved]
  rfl

/-- A thread that moves has less left to do, and the others have what they had. -/
theorem thread_of_step? (moved : k.step? R i = some k') :
  (k'.thread i).todo.length < (k.thread i).todo.length
    ∧ ∀ j, j ≠ i → k'.thread j = k.thread j
  := by
  simp only [step?] at moved
  split at moved
  · cases moved
  · next move rest todo =>
    rw [todo]
    split at moved
    case h_1 =>
      split at moved
      · cases moved
      · cases moved
        simp +contextual [setThread, setHandle]
    case h_3 =>
      split at moved
      · cases moved
        simp +contextual [setThread, setHandle]
      · cases moved
        constructor
        · simp only [setThread, Family.set_self, List.length_drop, List.length_cons]
          omega
        · simp +contextual [setThread]
    all_goals
      cases moved
      simp +contextual [setThread, setHandle]

/-- How many moves the first `n` threads have left. -/
def remaining (n : Nat) (k : Machine σ) : Nat :=
  ∑ i ∈ Finset.range n, (k.thread i).todo.length

/-- Every move of one of the first `n` threads leaves them less to do. -/
theorem remaining_lt {n : Nat} (inside : i < n) (moved : k.step? R i = some k') :
  k'.remaining n < k.remaining n
  := by
  obtain ⟨shorter, others⟩ := thread_of_step? moved
  apply Finset.sum_lt_sum
  · intro j _
    by_cases here : j = i
    · rw [here]
      apply shorter.le
    · rw [others j here]
  · use i, Finset.mem_range.mpr inside

/-! ### A thread that nobody interrupts -/

/-- Thread `i` alone, moving a number of times, takes a machine to another. -/
def Alone (R : Responder σ) (i : Nat) (k k' : Machine σ) : Prop :=
  ∃ n, k.run R (List.replicate n i) = k'

namespace Alone

variable {k'' : Machine σ} {rest : List Move} {m : Nat}

theorem trans (h : Alone R i k k') (h' : Alone R i k' k'') :
  Alone R i k k''
  := by
  obtain ⟨n, rfl⟩ := h
  obtain ⟨n', rfl⟩ := h'
  use n + n'
  rw [List.replicate_add, run, List.foldl_append, run, run]

theorem step (moved : k.step? R i = some k') :
  Alone R i k k'
  := by
  use 1
  simp [run, Machine.step, moved]

/-- The moves that tell observers amount to telling them one after another. -/
theorem notices (t : Notice) (m : Nat) (os : List Observer)
    (todo : (k.thread i).todo = os.map (.notify t m) ++ rest) :
  Alone R i k
    ({ k with rig := k.rig.notifyAll R t m os }.setThread i { k.thread i with todo := rest })
  := by
  induction os generalizing k with
  | nil =>
    use 0
    rw [List.map_nil, List.nil_append] at todo
    simp [run, Rig.notifyAll, setThread, ← todo]
  | cons o os ih =>
    have told : Alone R i k ({ k with rig := k.rig.notify R t m o }.setThread i
        { k.thread i with todo := os.map (Move.notify t m) ++ rest }) := by
      apply step
      simp [step?, todo]
    apply told.trans
    have others := ih (k := { k with rig := k.rig.notify R t m o }.setThread i
        { k.thread i with todo := os.map (Move.notify t m) ++ rest }) (by simp [setThread])
    simpa [setThread, Rig.notifyAll] using others

/-- Taking and claiming a platform lock that is free amounts to the native lock. -/
theorem lock (unlocked : (k.rig.handle m).locked = false)
    (todo : (k.thread i).todo = .acquire m :: .claim m :: rest) :
  Alone R i k ((k.setHandle m ((k.rig.handle m).nativeLock (.started i))).setThread i
    { k.thread i with todo := rest, statuses := (k.thread i).statuses ++ [.ok] })
  := by
  have taken : Alone R i k ((k.setHandle m (k.rig.handle m).acquire).setThread i
      { k.thread i with todo := .claim m :: rest }) := by
    apply step
    simp [step?, todo, unlocked]
  apply taken.trans
  apply step
  simp [step?, setThread, setHandle, Rig.setHandle, Handle.nativeLock]

/-- Disowning and releasing a platform lock amounts to the native unlock. -/
theorem unlock (todo : (k.thread i).todo = .disown m :: .release m :: rest) :
  let (s, h) := (k.rig.handle m).nativeUnlock (.started i)
  Alone R i k ((k.setHandle m h).setThread i
    { k.thread i with todo := rest, statuses := (k.thread i).statuses ++ [s] })
  := by
  rw [Handle.nativeUnlock]
  cases disowned : (k.rig.handle m).disown? (.started i) with
  | none =>
    apply step
    simp [step?, todo, disowned, setHandle, Rig.setHandle, setThread]
  | some h =>
    have parted : Alone R i k ((k.setHandle m h).setThread i
        { k.thread i with todo := .release m :: rest }) := by
      apply step
      simp [step?, todo, disowned]
    apply parted.trans
    apply step
    simp [step?, setThread, setHandle, Rig.setHandle]

end Alone

/-- The moves of a call that nobody interrupts amount to the call. -/
theorem alone_call {x m : Nat} {c : Call} {rest : List Move}
    (native : (k.rig.context x).primitive.kind = .native)
    (unblocked : k.rig.blocks (k.rig.context x).primitive m c = false)
    (todo : (k.thread i).todo = c.moves (k.rig.context x).observers m ++ rest) :
  ∃ t, t.todo = rest
    ∧ Alone R i k ({ k with rig := (k.rig.call R (.started i) x m c).2 }.setThread i t)
  := by
  have observers : (k.rig.context x).primitive.observers (k.rig.context x).hook
      = (k.rig.context x).observers := rfl
  simp only [Rig.call_eq_serve, Rig.serve, unblocked, Bool.false_eq_true, ↓reduceIte, observers]
  cases c with
  | init =>
    have told := Alone.notices (R := R) _ m _ todo
    simpa [Rig.serveBare, native] using ⟨_, rfl, told⟩
  | free =>
    have told := Alone.notices (R := R) _ m _ todo
    simpa [Rig.serveBare, native] using ⟨_, rfl, told⟩
  | lock =>
    have unlocked : (k.rig.handle m).locked = false := by
      simpa [Rig.blocks, native] using unblocked
    let t : Thread := { k.thread i with
      todo := rest, statuses := (k.thread i).statuses ++ [.ok] }
    use t, rfl
    apply (Alone.lock unlocked todo).trans
    let locked := (k.setHandle m ((k.rig.handle m).nativeLock (.started i))).setThread i
      { t with todo := (k.rig.context x).observers.map (Move.notify (.locked .ok) m) ++ rest }
    have todo : (locked.thread i).todo
        = (k.rig.context x).observers.map (Move.notify (.locked .ok) m) ++ rest := by
      simp [locked, setThread]
    have told := Alone.notices (R := R) (.locked .ok) m _ todo
    simpa [Rig.serveBare, native, setThread, setHandle, t, locked] using told
  | unlock =>
    let os := (k.rig.context x).observers.reverse
    let told := { k with rig := k.rig.notifyAll R .unlocking m os }.setThread i
      { k.thread i with todo := .disown m :: .release m :: rest }
    have tells : Alone R i k told := by
      apply Alone.notices
      rw [todo, Call.moves, List.append_assoc]
      rfl
    let served := (told.rig.handle m).nativeUnlock (.started i)
    let t : Thread := { k.thread i with
      todo := rest, statuses := (k.thread i).statuses ++ [served.1] }
    use t, rfl
    apply tells.trans
    have todo : (told.thread i).todo = .disown m :: .release m :: rest := by
      simp [told, setThread]
    have unlocked := Alone.unlock (R := R) todo
    simpa [Rig.serveBare, native, setThread, setHandle, t, told, served, os] using unlocked

end Machine

end LockDiscipline
