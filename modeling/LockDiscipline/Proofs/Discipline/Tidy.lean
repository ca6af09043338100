import LockDiscipline.Proofs.Conservation
import LockDiscipline.Proofs.Discipline.Hearing

/-!
# Tidy words

A word is tidy if the handle is used as intended: it is initialised, then locked and unlocked
any number of times, and freed, and all of this any number of times.  Unlike a legal word it
has no second initialisation, no lock that is refused, and it is complete.  Along a tidy word
no operation is a violation, and the count follows the number of live handles
(`Standing.run_of_tread`).
-/

namespace LockDiscipline

namespace Discipline

open RegularExpression

/-- A handle is locked and unlocked. -/
def round : RegularExpression Operation := char (Operation.lock true) * char Operation.unlock

/-- The lives of a handle that is used as intended. -/
def tidy : RegularExpression Operation :=
  (char Operation.init * round.star * char Operation.free).star

/-- The state that an operation leads to in a tidy word, if it may come there. -/
def tread : LockState → Operation → Option LockState
  | .freed, .init => some .idle
  | .idle, .lock true => some .locked
  | .locked, .unlock => some .idle
  | .idle, .free => some .freed
  | _, _ => none

variable {s t : LockState} {w : List Operation}

/-- Words that lead back to a state do so any number of times. -/
theorem tread_of_mem_kstar {L : Language Operation}
    (back : ∀ u ∈ L, u.foldlM tread s = some s) (mem : w ∈ KStar.kstar L) :
  w.foldlM tread s = some s
  := by
  obtain ⟨us, rfl, all⟩ := Language.mem_kstar.mp mem
  clear mem
  induction us with
  | nil => rfl
  | cons u us ih =>
    obtain ⟨first, rest⟩ := List.forall_mem_cons.mp all
    rw [List.flatten_cons, List.foldlM_append, back u first]
    apply ih rest

/-- A tidy word leads from a freed handle back to one. -/
theorem tread_of_tidy (mem : w ∈ tidy.matches') :
  w.foldlM tread .freed = some .freed
  := by
  apply tread_of_mem_kstar _ mem
  rintro _ ⟨_, ⟨_, rfl, u, rounds, rfl⟩, _, rfl, rfl⟩
  have back : u.foldlM tread .idle = some .idle := by
    apply tread_of_mem_kstar _ rounds
    rintro _ ⟨_, rfl, _, rfl, rfl⟩
    rfl
  change (u ++ [Operation.free]).foldlM tread .idle = some .freed
  rw [List.foldlM_append, back]
  rfl

end Discipline

namespace Standing

open Discipline

variable {s t : LockState}

/-- An operation that may come in a tidy word is legal, and the count follows. -/
theorem after_of_tread (live : Int) {op : Operation} (leads : tread s op = some t) :
  violations s.byte op = []
    ∧ (⟨s.byte, live⟩ : Standing).after op
      = ⟨t.byte, live + (alive t.byte).toNat - (alive s.byte).toNat⟩
  := by
  obtain _ | _ | (_ | _) | _ := op
  all_goals
    cases s <;> cases leads <;> simp [violations, after, attempt, LockState.transition, Except.map,
      Int.add_neg_one]

/-- So are all operations of a tidy word. -/
theorem run_of_tread (live : Int) {ops : List Operation} (leads : ops.foldlM tread s = some t) :
  (⟨s.byte, live⟩ : Standing).faults ops = []
    ∧ (⟨s.byte, live⟩ : Standing).run ops
      = ⟨t.byte, live + (alive t.byte).toNat - (alive s.byte).toNat⟩
  := by
  induction ops generalizing s live with
  | nil =>
    cases leads
    use rfl
    simp [run]
  | cons op ops ih =>
    obtain ⟨u, first, rest⟩ := Option.bind_eq_some_iff.mp leads
    obtain ⟨legal, after⟩ := after_of_tread live first
    obtain ⟨found, ends⟩ := ih _ rest
    constructor
    · rw [faults, legal, after, found]
      rfl
    · rw [run, List.foldl_cons, after]
      apply Eq.trans ends
      congr 1
      omega

end Standing

end LockDiscipline
