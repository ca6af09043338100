import Mathlib.Tactic.Use
import LockDiscipline.Interleaving
import LockDiscipline.Proofs.Discipline.Detection

/-!
# Phases of a call

Wherever a thread is in the calls that it makes, the moves that it has left determine its
`Phase`: in the middle of taking or giving back the platform lock of a handle, or not.  Each
move leads from one phase to the next (`Phase.Leads`), and `Ahead w p moves` says that the
moves lead from `p` to the end of a list of calls of which the monitor `w` is told.  Whatever
calls a thread makes, it sets out with such moves (`Ahead.calls`).
-/

namespace LockDiscipline

/-- Where a thread is in a call. -/
inductive Phase where
  /-- The thread is between calls, or in one that does not concern a platform lock. -/
  | outside
  /-- The thread has taken the platform lock of a handle, and is not its owner yet. -/
  | acquired (m : Nat)
  /-- The thread is the owner of a handle, and the monitor was not told of the lock. -/
  | claimed (m : Nat)
  /-- The monitor was told that the thread unlocks a handle, which may be somebody else's. -/
  | parting (m : Nat)
  /-- The thread has the platform lock of a handle, and is its owner no more. -/
  | disowned (m : Nat)
  deriving DecidableEq, Repr

namespace Phase

/-- In the middle of taking the platform lock of handle `m` or of letting it go. -/
def Engaged (m : Nat) (p : Phase) : Prop := p = acquired m ∨ p = claimed m ∨ p = disowned m

/-- In the middle of a call that is about the platform lock of handle `m`. -/
def About (m : Nat) (p : Phase) : Prop := p.Engaged m ∨ p = parting m

/-- Right before a platform lock is let go. -/
def releasing : Phase → Bool
  | disowned _ => true
  | _ => false

@[simp]
theorem not_engaged_outside (m : Nat) :
  ¬ outside.Engaged m
  := by simp [Engaged]

@[simp]
theorem not_engaged_parting (m n : Nat) :
  ¬ (parting n).Engaged m
  := by simp [Engaged]

/-- A move on handle `n` leads from a phase to another, if `w` is the monitor that is told of
calls. -/
inductive Leads (w : Observer) (n : Nat) : Phase → Move → Phase → Prop
  | seen {p : Phase} (t : Notice) (k : Nat) :
      p.releasing = false → Leads w n p (.notify t n (.recorder k)) p
  | init : Leads w n outside (.notify .initialised n w) outside
  | free : Leads w n outside (.notify .freeing n w) outside
  | acquire : Leads w n outside (.acquire n) (acquired n)
  | claim : Leads w n (acquired n) (.claim n) (claimed n)
  | lock : Leads w n (claimed n) (.notify (.locked .ok) n w) outside
  | unlock : Leads w n outside (.notify .unlocking n w) (parting n)
  | disown : Leads w n (parting n) (.disown n) (disowned n)
  | release : Leads w n (disowned n) (.release n) outside

/-- Whether a move from a phase to another neither takes nor gives back the platform lock of
handle `m`, nor tells the monitor `w` that it is given back. -/
def Spares (w : Observer) (m : Nat) (p : Phase) (move : Move) (p' : Phase) : Prop :=
  move ≠ .acquire m ∧ move ≠ .release m ∧ move ≠ .notify .unlocking m w
    ∧ (p' = p ∨ ¬ p.About m ∧ ¬ p'.About m)

/-- A move on a handle spares the others. -/
theorem Leads.spares {w : Observer} {m n : Nat} {p p' : Phase} {move : Move}
    (leads : Leads w n p move p') (other : m ≠ n) :
  Spares w m p move p'
  := by
  cases leads with
  | _ => simp [Spares, About, Engaged, other.symm]

end Phase

/-! ### The moves ahead -/

/-- The moves lead from a phase to the end of a list of calls of which the monitor `w` is
told. -/
inductive Ahead (w : Observer) : Phase → List Move → Prop
  | done : Ahead w .outside []
  | move {n : Nat} {p p' : Phase} {move : Move} {rest : List Move} :
      p.Leads w n move p' → Ahead w p' rest → Ahead w p (move :: rest)

namespace Ahead

variable {w : Observer} {i m : Nat} {p p' : Phase} {rest : List Move} {os : List Observer}

/-- Those who are no monitors may be told of anything before the platform lock is let go. -/
theorem notices_of_none (h : Ahead w p rest) (inside : p.releasing = false) (t : Notice)
    (m : Nat) (none : os.filterMap Observer.monitor? = []) :
  Ahead w p (os.map (.notify t m) ++ rest)
  := by
  induction os with
  | nil => apply h
  | cons o os ih =>
    cases o with
    | monitor j => cases none
    | recorder k => apply Ahead.move (.seen t k inside) (ih none)

/-- If monitor `i` is the only one among those who are told, then what matters is what it is
told. -/
theorem notices (h : Ahead (.monitor i) p' rest) (inside : p.releasing = false)
    (inside' : p'.releasing = false) {t : Notice}
    (leads : p.Leads (.monitor i) m (.notify t m (.monitor i)) p')
    (sole : os.filterMap Observer.monitor? = [i]) :
  Ahead (.monitor i) p (os.map (.notify t m) ++ rest)
  := by
  induction os with
  | nil => cases sole
  | cons o os ih =>
    cases o with
    | monitor j =>
      obtain ⟨rfl, none⟩ := List.cons.inj sole
      apply Ahead.move leads (h.notices_of_none inside' t m none)
    | recorder k => apply Ahead.move (.seen t k inside) (ih sole)

/-- The moves of a call lead back out of it. -/
theorem call (h : Ahead (.monitor i) .outside rest)
    (sole : os.filterMap Observer.monitor? = [i]) (c : Call) (m : Nat) :
  Ahead (.monitor i) .outside (c.moves os m ++ rest)
  := by
  have reverse : os.reverse.filterMap Observer.monitor? = [i] := by
    rw [List.filterMap_reverse, sole]
    rfl
  cases c with
  | init => apply h.notices rfl rfl .init sole
  | free => apply h.notices rfl rfl .free reverse
  | lock =>
    apply Ahead.move .acquire
    apply Ahead.move .claim
    apply h.notices rfl rfl .lock sole
  | unlock =>
    rw [Call.moves, List.append_assoc]
    apply notices _ rfl rfl .unlock reverse
    apply Ahead.move .disown
    apply Ahead.move .release h

/-- So do the moves of any list of calls. -/
theorem calls (sole : os.filterMap Observer.monitor? = [i]) (qs : List (Call × Nat)) :
  Ahead (.monitor i) .outside (qs.flatMap fun q => q.1.moves os q.2)
  := by
  induction qs with
  | nil => apply done
  | cons q qs ih =>
    rw [List.flatMap_cons]
    apply ih.call sole

/-- Once a handle is disowned, it is released next, and the call is over. -/
theorem of_disowned (h : Ahead w (.disowned m) rest) :
  ∃ after, rest = .release m :: after ∧ Ahead w .outside after
  := by
  cases h with
  | move leads after =>
    cases leads with
    | seen t k inside => cases inside
    | release => exact ⟨_, rfl, after⟩

end Ahead

end LockDiscipline
