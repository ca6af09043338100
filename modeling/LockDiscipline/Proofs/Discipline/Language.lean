import Mathlib.Computability.RegularExpressions
import LockDiscipline.Transition

/-!
# The discipline as a language

The discipline says in which order the operations of one handle may come: the handle is
initialised, then locked and unlocked any number of times, and freed, and all of this any
number of times.  It may be initialised again at any moment, and a lock that is refused does
not count.  `discipline` is the regular expression for the complete lives of a handle, and a
word is `Legal` if it is the beginning of one.

`reached s` has the words that lead from a zeroed handle to state `s`.  They satisfy one
linear equation for each state (`reached_freed`, `reached_idle`, `reached_locked`), from
which it follows that transitions follow the discipline (`walk_eq_some_iff`), and that the
legal words are those that lead to a state (`legal_iff_exists_mem_reached`).
-/

namespace LockDiscipline.Discipline

open RegularExpression

/-- What may happen between the initialisation of a handle and its release, again and
again. -/
def use : RegularExpression Operation :=
  char .init + char (.lock false) + char (.lock true) * (char .unlock + char .init)

/-- One life of a handle, from its initialisation to its release. -/
def life : RegularExpression Operation := char .init * use.star * char .free

/-- The complete lives of a handle. -/
def discipline : RegularExpression Operation := life.star

/-- A word is legal if it is the beginning of complete lives. -/
def Legal (w : List Operation) : Prop := ∃ u ∈ discipline.matches', w <+: u

/-- The words that lead from a zeroed handle to a state: outside of a life, inside of one but
not holding the lock, and holding it. -/
def reached : LockState → RegularExpression Operation
  | .freed => life.star
  | .idle => life.star * char .init * use.star
  | .locked => life.star * char .init * use.star * char (.lock true)

/-- The violation by which an operation ends the legal word before it. -/
inductive Blame : List Operation → Operation → Violation → Prop
  | doubleFree {w : List Operation} :
      w ∈ (reached .freed).matches' → Blame w .free .doubleFree
  | lockWithoutInit {w : List Operation} (acquired : Bool) :
      w ∈ (reached .freed).matches' → Blame w (.lock acquired) .lockWithoutInit
  | unlockWithoutInit {w : List Operation} :
      w ∈ (reached .freed).matches' → Blame w .unlock .unlockWithoutInit
  | unlockWithoutLock {w : List Operation} :
      w ∈ (reached .idle).matches' → Blame w .unlock .unlockWithoutLock
  | freeWithoutUnlock {w : List Operation} :
      w ∈ (reached .locked).matches' → Blame w .free .freeWithoutUnlock
  | doubleLock {w : List Operation} (acquired : Bool) :
      w ∈ (reached .locked).matches' → Blame w (.lock acquired) .doubleLock

/-! ### The equations of the languages -/

/-- A handle outside of a life has had none, or was idle and freed. -/
theorem reached_freed :
  (reached .freed).matches' = 1 + (reached .idle).matches' * {[.free]}
  := by
  have lives : life.star.matches' = 1 + life.star.matches' * life.matches' :=
    (Language.one_add_kstar_mul_self_eq_kstar life.matches').symm
  simp only [reached, matches'_mul, matches'_char]
  conv_lhs => rw [lives]
  simp only [life, matches'_mul, matches'_char, mul_assoc]

/-- An idle handle was initialised, at whatever state, or it was idle and could not be
locked, or it was locked and unlocked. -/
theorem reached_idle :
  (reached .idle).matches' =
    (reached .freed).matches' * {[.init]} + (reached .idle).matches' * {[.init]}
      + (reached .locked).matches' * {[.init]} + (reached .idle).matches' * {[.lock false]}
      + (reached .locked).matches' * {[.unlock]}
  := by
  have uses : use.star.matches' = 1 + use.star.matches' * use.matches' :=
    (Language.one_add_kstar_mul_self_eq_kstar use.matches').symm
  simp only [reached, matches'_mul, matches'_char]
  conv_lhs => rw [uses]
  have once : use.matches'
      = {[.init]} + {[.lock false]} + {[.lock true]} * ({[.unlock]} + {[.init]}) := rfl
  rw [once]
  simp only [mul_add, mul_one, mul_assoc]
  ac_rfl

/-- A locked handle was idle and could be locked. -/
theorem reached_locked :
  (reached .locked).matches' = (reached .idle).matches' * {[.lock true]}
  := rfl

/-! ### Walks -/

/-- The state that a handle in state `s` is in after an operation, unless that is a
violation. -/
def next (s : LockState) (op : Operation) : Option LockState :=
  (s.transition op).toOption.map Change.next

/-- The state that a handle in state `s` is in after the operations of a word, unless one of
them is a violation. -/
def walk (s : LockState) (w : List Operation) : Option LockState := w.foldlM next s

theorem walk_concat (s : LockState) (w : List Operation) (op : Operation) :
  walk s (w ++ [op]) = (walk s w).bind (next · op)
  := by simp [walk]

/-- Only an idle handle can be freed. -/
theorem next_eq_freed {s : LockState} {op : Operation} :
  next s op = some .freed ↔ s = .idle ∧ op = .free
  := by
  obtain _ | _ | (_ | _) | _ := op
  all_goals
    cases s <;> decide

/-- A handle becomes idle when it is initialised or unlocked, and stays so when it could not
be locked. -/
theorem next_eq_idle {s : LockState} {op : Operation} :
  next s op = some .idle
    ↔ op = .init ∨ s = .idle ∧ op = .lock false ∨ s = .locked ∧ op = .unlock
  := by
  obtain _ | _ | (_ | _) | _ := op
  all_goals
    cases s <;> decide

/-- Only an idle handle can be locked. -/
theorem next_eq_locked {s : LockState} {op : Operation} :
  next s op = some .locked ↔ s = .idle ∧ op = .lock true
  := by
  obtain _ | _ | (_ | _) | _ := op
  all_goals
    cases s <;> decide

/-! ### Walks and languages -/

theorem concat_mem_mul_singleton {L : Language Operation} {w : List Operation}
    {op a : Operation} :
  w ++ [op] ∈ L * {[a]} ↔ w ∈ L ∧ op = a
  := by
  rw [Language.mem_mul]
  constructor
  · rintro ⟨u, mem, v, last, eq⟩
    obtain rfl : v = [a] := last
    obtain ⟨rfl, same⟩ := List.append_inj' eq rfl
    cases same
    exact ⟨mem, rfl⟩
  · rintro ⟨mem, rfl⟩
    exact ⟨w, mem, [op], rfl, rfl⟩

theorem nil_not_mem_mul_singleton {L : Language Operation} {a : Operation} :
  [] ∉ L * {[a]}
  := by
  rw [Language.mem_mul]
  rintro ⟨u, -, v, last, eq⟩
  obtain rfl : v = [a] := last
  simp at eq

/-- The empty word leads to nothing but a zeroed handle. -/
theorem nil_mem_reached_iff {s : LockState} :
  [] ∈ (reached s).matches' ↔ s = .freed
  := by
  cases s with
  | freed =>
    rw [reached_freed]
    simp [Language.mem_add, Language.mem_one]
  | idle =>
    rw [reached_idle]
    simp [Language.mem_add, nil_not_mem_mul_singleton]
  | locked =>
    rw [reached_locked]
    simp [nil_not_mem_mul_singleton]

/-- A word leads to a state by its last operation. -/
theorem concat_mem_reached_iff {w : List Operation} {op : Operation} {s : LockState} :
  w ++ [op] ∈ (reached s).matches'
    ↔ ∃ t, w ∈ (reached t).matches' ∧ next t op = some s
  := by
  cases s with
  | freed =>
    rw [reached_freed, Language.mem_add, concat_mem_mul_singleton, Language.mem_one]
    simp only [next_eq_freed]
    constructor
    · rintro (none | ⟨reaches, rfl⟩)
      · simp at none
      · use .idle
    · rintro ⟨t, reaches, rfl, rfl⟩
      exact .inr ⟨reaches, rfl⟩
  | idle =>
    rw [reached_idle]
    simp only [Language.mem_add, concat_mem_mul_singleton, next_eq_idle]
    constructor
    · rintro ((((⟨reaches, rfl⟩ | ⟨reaches, rfl⟩) | ⟨reaches, rfl⟩) | ⟨reaches, rfl⟩)
        | ⟨reaches, rfl⟩)
      · use .freed, reaches, .inl rfl
      · use .idle, reaches, .inl rfl
      · use .locked, reaches, .inl rfl
      · use .idle, reaches, .inr (.inl ⟨rfl, rfl⟩)
      · use .locked, reaches, .inr (.inr ⟨rfl, rfl⟩)
    · rintro ⟨t, reaches, rfl | ⟨rfl, rfl⟩ | ⟨rfl, rfl⟩⟩
      · cases t with
        | freed => simp [reaches]
        | idle => simp [reaches]
        | locked => simp [reaches]
      · simp [reaches]
      · simp [reaches]
  | locked =>
    rw [reached_locked, concat_mem_mul_singleton]
    simp only [next_eq_locked]
    constructor
    · rintro ⟨reaches, rfl⟩
      use .idle
    · rintro ⟨t, reaches, rfl, rfl⟩
      exact ⟨reaches, rfl⟩

/-- The words that lead to a state are the words along which a zeroed handle can walk to
it. -/
theorem walk_eq_some_iff {w : List Operation} {s : LockState} :
  walk .freed w = some s ↔ w ∈ (reached s).matches'
  := by
  induction w using List.reverseRecOn generalizing s with
  | nil =>
    rw [nil_mem_reached_iff, walk, List.foldlM_nil]
    apply Iff.trans Option.some_inj eq_comm
  | append_singleton w op ih =>
    rw [concat_mem_reached_iff, walk_concat, Option.bind_eq_some_iff]
    simp only [ih]

/-! ### Legal words -/

theorem Legal.of_continued {w u : List Operation} (legal : Legal u) (begins : w <+: u) :
  Legal w
  := by
  obtain ⟨v, complete, continues⟩ := legal
  exact ⟨v, complete, begins.trans continues⟩

/-- A word that leads to a state can be continued by an operation that leads on. -/
theorem concat_mem_reached {w : List Operation} {s t : LockState} {op : Operation}
    (reaches : w ∈ (reached s).matches') (leads : next s op = some t) :
  w ++ [op] ∈ (reached t).matches'
  := concat_mem_reached_iff.mpr ⟨s, reaches, leads⟩

/-- From every state that a word leads to a handle can be brought to the end of its life. -/
theorem legal_of_mem_reached {w : List Operation} {s : LockState}
    (reaches : w ∈ (reached s).matches') :
  Legal w
  := by
  have of_idle {w : List Operation} (idle : w ∈ (reached .idle).matches') : Legal w := by
    use w ++ [.free], concat_mem_reached idle (t := .freed) rfl
    apply List.prefix_append
  cases s with
  | freed => use w, reaches
  | idle => apply of_idle reaches
  | locked =>
    have unlocked : w ++ [.unlock] ∈ (reached .idle).matches' :=
      concat_mem_reached reaches rfl
    apply (of_idle unlocked).of_continued
    apply List.prefix_append

/-- The legal words are those that lead to a state. -/
theorem legal_iff_exists_mem_reached {w : List Operation} :
  Legal w ↔ ∃ s, w ∈ (reached s).matches'
  := by
  constructor
  · rintro ⟨u, complete, v, rfl⟩
    have ends : walk .freed (w ++ v) = some .freed := walk_eq_some_iff.mpr complete
    rw [walk, List.foldlM_append] at ends
    obtain ⟨s, leads, -⟩ := Option.bind_eq_some_iff.mp ends
    use s
    apply walk_eq_some_iff.mp leads
  · rintro ⟨s, reaches⟩
    apply legal_of_mem_reached reaches

/-- An operation that is to blame does end a legal word. -/
theorem Blame.not_legal {w : List Operation} {op : Operation} {v : Violation}
    (blame : Blame w op v) :
  ¬ Legal (w ++ [op])
  := by
  rw [legal_iff_exists_mem_reached]
  rintro ⟨t, reaches⟩
  rw [← walk_eq_some_iff, walk_concat] at reaches
  obtain here | ⟨_, here⟩ | here | here | here | ⟨_, here⟩ := blame
  all_goals
    rw [walk_eq_some_iff.mpr here] at reaches
    cases reaches

/-- On a handle in the state that a word leads to, the operation is to blame that the
transition refuses, and for the same violation. -/
theorem blame_of_transition {w : List Operation} {s : LockState} {op : Operation}
    {v : Violation} (reaches : w ∈ (reached s).matches')
    (illegal : s.transition op = .error v) :
  Blame w op v
  := by
  cases s with
  | freed =>
    cases op with
    | init => cases illegal
    | free =>
      cases illegal
      apply Blame.doubleFree reaches
    | lock acquired =>
      cases illegal
      apply Blame.lockWithoutInit acquired reaches
    | unlock =>
      cases illegal
      apply Blame.unlockWithoutInit reaches
  | idle =>
    cases op with
    | unlock =>
      cases illegal
      apply Blame.unlockWithoutLock reaches
    | _ => cases illegal
  | locked =>
    cases op with
    | free =>
      cases illegal
      apply Blame.freeWithoutUnlock reaches
    | lock acquired =>
      cases illegal
      apply Blame.doubleLock acquired reaches
    | _ => cases illegal

end LockDiscipline.Discipline
