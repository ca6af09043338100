import LockDiscipline.Proofs.Custody.Run
import LockDiscipline.Proofs.Discipline.Hearing
import LockDiscipline.Proofs.Machine

/-!
# Who moves the byte of a handle

A monitor is told of an unlock before the primitive decides whether the thread may unlock.  So
a thread that unlocks what another thread holds moves the byte from locked to idle, although it
is refused afterwards (`Machine.Trespass`).  Apart from that a lock or an unlock changes the
byte of a handle only if the thread holds the handle (`Machine.Supervised.of_changed`), and
whether an unlock is refused is settled when the monitor is told of it, since meanwhile nobody
can make the thread the owner or take the handle from it
(`Machine.Supervised.owner_run`).
-/

namespace LockDiscipline

/-- Nothing but telling recorders comes before an unlock of handle `m` is decided. -/
def Undecided (m : Nat) (todo : List Move) : Prop :=
  ∃ notices rest, todo = notices ++ .disown m :: rest
    ∧ ∀ move ∈ notices, ∃ t n k, move = .notify t n (.recorder k)

/-- After the monitor was told of an unlock it is to be decided. -/
theorem Ahead.undecided {w : Observer} {m : Nat} {todo : List Move}
    (ahead : Ahead w (.parting m) todo) :
  Undecided m todo
  := by
  generalize parting : Phase.parting m = p at ahead
  induction ahead with
  | done => cases parting
  | @move n p p' move rest leads _ ih =>
    subst parting
    cases leads with
    | seen t k _ =>
      obtain ⟨notices, rest, rfl, recorders⟩ := ih rfl
      refine ⟨_ :: notices, rest, rfl, ?_⟩
      intro move mem
      obtain rfl | mem := List.mem_cons.mp mem
      · exact ⟨t, n, k, rfl⟩
      · exact recorders move mem
    | disown => exact ⟨[], rest, rfl, nofun⟩

namespace Machine

variable {σ : Type}

/-- Thread `j` holds handle `m`: it was the last to take the platform lock, which was not let go
since then, and it is the owner. -/
structure Holds (made : List (Nat × Move)) (j m : Nat) (k : Machine σ) : Prop where
  taken : ∃ pre post, made = pre ++ (j, .acquire m) :: post
    ∧ ∀ l, (l, .acquire m) ∉ post ∧ (l, .release m) ∉ post
  locked : (k.rig.handle m).locked = true
  owner : (k.rig.handle m).owner = some (.started j)

/-- Thread `j` is about to tell monitor `i` that it unlocks handle `m`, which is marked as locked
and held by another thread. -/
structure Trespass (i : Nat) (made : List (Nat × Move)) (j m : Nat) (k : Machine σ) : Prop where
  next : (k.thread j).todo.head? = some (.notify .unlocking m (.monitor i))
  marked : (k.rig.handle m).state? = some .locked
  foreign : ∃ l, l ≠ j ∧ k.Holds made l m

variable {i j l m : Nat} {start : List Effect} {phase : Family Phase} {made : List (Nat × Move)}
  {k k' : Machine σ}

/-- A handle has one holder. -/
theorem Holds.eq (h : k.Holds made j m) (h' : k.Holds made l m) :
  l = j
  := by simpa using h'.owner.symm.trans h.owner

theorem Trespass.not_holds (trespass : k.Trespass i made j m) :
  ¬ k.Holds made j m
  := by
  intro holds
  obtain ⟨l, other, foreign⟩ := trespass.foreign
  exact other (holds.eq foreign)

namespace Supervised

/-- The owner of a handle holds it. -/
theorem holds_of_owner (h : Supervised i start phase made k)
    (owner : (k.rig.handle m).owner = some (.started j)) :
  k.Holds made j m
  := by
  obtain ⟨pre, post, split, quiet, locked, -, -⟩ := (h.custody m).of_owner owner
  exact ⟨⟨pre, post, split, quiet⟩, locked, owner⟩

/-- A handle that is marked as locked is held by somebody. -/
theorem holds_of_marked (h : Supervised i start phase made k) (marked : (k.rig.handle m).Marked) :
  ∃ l, k.Holds made l m
  := by
  cases h.custody m with
  | vacant _ _ unmarked _ => exact absurd marked unmarked
  | @held l _ _ _ _ _ grip _ => exact ⟨l, h.holds_of_owner (grip.of_marked marked).2.1⟩

/-- A thread that has claimed a handle, and is about to tell the monitor, holds it. -/
theorem holds_of_claimed (h : Supervised i start phase made k) (claimed : phase j = .claimed m) :
  k.Holds made j m
  := by
  obtain ⟨_, _, -, -, -, grip, -⟩ := (h.custody m).of_engaged (.inr (.inl claimed))
  rw [claimed] at grip
  cases grip with
  | claimed owned => exact h.holds_of_owner owned
  | holding away => simp [Phase.About, Phase.Engaged] at away

/-- A handle that is being claimed has no owner. -/
theorem unowned_of_acquired (h : Supervised i start phase made k)
    (acquired : phase j = .acquired m) :
  (k.rig.handle m).owner = none
  := by
  obtain ⟨_, _, -, -, -, grip, -⟩ := (h.custody m).of_engaged (.inl acquired)
  rw [acquired] at grip
  cases grip with
  | acquired unowned => exact unowned
  | holding away => simp [Phase.About, Phase.Engaged] at away

end Supervised

/-! ### What a move does to a handle -/

variable [Sink σ] {move : Move} {rest : List Move}

/-- Whoever is told of something, owners stay what they are. -/
theorem owner_notify (r : Rig σ) (t : Notice) (n : Nat) (o : Observer) (m : Nat) :
  ((r.notify silent t n o).handle m).owner = (r.handle m).owner
  := by
  cases o with
  | recorder k => rfl
  | monitor i =>
    have same := Rig.platform_observe r i t.operation n
    exact congrArg (fun p => (p.handle m).owner) same

/-- The owner of a handle changes when the handle is claimed, and when its owner disowns it.  A
move that tells no monitor leaves all bytes. -/
theorem handle_of_step? (todo : (k.thread j).todo = move :: rest)
    (moved : k.step? silent j = some k') (m : Nat) :
  (k'.rig.handle m).owner
      = (if move = .claim m then some (.started j)
        else if move = .disown m ∧ (k.rig.handle m).owner = some (.started j) then none
        else (k.rig.handle m).owner)
    ∧ ((∀ t n i, move ≠ .notify t n (.monitor i)) →
      (k'.rig.handle m).byte = (k.rig.handle m).byte)
  := by
  have same {n : Nat} {h : Handle} (byte : h.byte = (k.rig.handle n).byte) (t : Thread) :
      (((k.setHandle n h).setThread j t).rig.handle m).byte = (k.rig.handle m).byte :=
    Rig.byte_setHandle byte m
  rw [Machine.step?, todo] at moved
  cases move with
  | acquire n =>
    by_cases taken : (k.rig.handle n).locked = true
    · simp only [taken, ↓reduceIte] at moved
      cases moved
    · simp only [taken] at moved
      cases moved
      refine ⟨?_, fun _ => same (by rfl) _⟩
      by_cases here : m = n
      · subst here
        simp [setThread, setHandle, Rig.setHandle, Handle.acquire]
      · simp [setThread, setHandle, Rig.setHandle, here]
  | claim n =>
    cases moved
    refine ⟨?_, fun _ => same (by rfl) _⟩
    by_cases here : m = n
    · subst here
      simp [setThread, setHandle, Rig.setHandle, Handle.claim]
    · simp [setThread, setHandle, Rig.setHandle, here, Ne.symm here]
  | disown n =>
    by_cases owner : (k.rig.handle n).owner = some (.started j)
    · simp only [Handle.disown?, owner, ↓reduceIte] at moved
      cases moved
      refine ⟨?_, fun _ => same (by rfl) _⟩
      by_cases here : m = n
      · subst here
        simp [setThread, setHandle, Rig.setHandle, owner]
      · simp [setThread, setHandle, Rig.setHandle, here, Ne.symm here]
    · simp only [Handle.disown?, owner, ↓reduceIte] at moved
      cases moved
      refine ⟨?_, fun _ => rfl⟩
      by_cases here : m = n
      · subst here
        simp [setThread, owner]
      · simp [setThread, Ne.symm here]
  | release n =>
    cases moved
    refine ⟨?_, fun _ => same (by rfl) _⟩
    by_cases here : m = n
    · subst here
      simp [setThread, setHandle, Rig.setHandle, Handle.release]
    · simp [setThread, setHandle, Rig.setHandle, here]
  | notify t n o =>
    cases moved
    constructor
    · simp [setThread, owner_notify]
    · intro untold
      cases o with
      | monitor i => exact absurd rfl (untold t n i)
      | recorder l => rfl
  | load =>
    cases moved
    simp [setThread]
  | store =>
    cases moved
    simp [setThread]

namespace Supervised

/-- What the monitor is told changes the byte of the handle as the operation does, and no
other. -/
theorem byte_notify (h : Supervised i start phase made k) {t : Notice} {n : Nat}
    (todo : (k.thread j).todo = .notify t n (.monitor i) :: rest)
    (moved : k.step? silent j = some k') (m : Nat) :
  (k'.rig.handle m).byte
    = if m = n then ((k.rig.standing i n).after t.operation).byte else (k.rig.handle m).byte
  := by
  obtain ⟨sink, observed⟩ := Rig.observe_eq h.free t.operation n
  have notified : k.rig.notify silent t n (.monitor i) = _ := observed
  simp only [Machine.step?, todo, notified] at moved
  cases moved
  by_cases here : m = n
  · subst here
    simp [setThread]
  · simp [setThread, here]

/-- The monitor that is told of an unlock marks the handle as idle if it was marked as locked, and
does nothing otherwise. -/
theorem byte_unlock (h : Supervised i start phase made k)
    (todo : (k.thread j).todo = .notify .unlocking m (.monitor i) :: rest)
    (moved : k.step? silent j = some k') :
  ((k.rig.handle m).Marked ∧ (k'.rig.handle m).byte = LockState.idle.byte)
    ∨ (¬ (k.rig.handle m).Marked ∧ (k'.rig.handle m).byte = (k.rig.handle m).byte)
  := by
  rw [h.byte_notify todo moved, if_pos rfl]
  cases changes : transition (k.rig.handle m).byte .unlock with
  | ok c =>
    left
    have after := Standing.after_of_ok (s := k.rig.standing i m) changes
    obtain ⟨illegal, -⟩ | ⟨illegal, -⟩ | ⟨illegal, -⟩ | ⟨illegal, -⟩ | ⟨-, marked, rfl⟩ :=
      legal_cases changes
    · cases illegal
    · cases illegal
    · cases illegal
    · cases illegal
    · exact ⟨marked, congrArg Standing.byte after⟩
  | error v =>
    right
    have after := Standing.after_of_error (s := k.rig.standing i m) changes
    refine ⟨?_, congrArg Standing.byte after⟩
    intro marked
    rw [Handle.Marked] at marked
    rw [marked] at changes
    cases changes

/-- A move that changes the byte of a handle tells the monitor of something, and either it is no
lock or unlock, or the thread holds the handle, or it trespasses. -/
theorem of_changed (h : Supervised i start phase made k) (moved : k.step? silent j = some k')
    (changed : (k'.rig.handle m).byte ≠ (k.rig.handle m).byte) :
  (k.thread j).todo.head? = some (.notify .initialised m (.monitor i))
    ∨ (k.thread j).todo.head? = some (.notify .freeing m (.monitor i))
    ∨ k.Holds made j m ∨ k.Trespass i made j m
  := by
  have next := h.ahead j
  generalize todo : (k.thread j).todo = moves at next
  generalize at_phase : phase j = q at next
  cases next with
  | done =>
    rw [Machine.step?, todo] at moved
    cases moved
  | @move n _ p' move rest leads after =>
    have here {t : Notice} (eq : move = .notify t n (.monitor i)) : m = n := by
      subst eq
      by_contra other
      apply changed
      rw [h.byte_notify todo moved, if_neg other]
    have told : ¬ ∀ t n i, move ≠ .notify t n (.monitor i) :=
      fun untold => changed ((handle_of_step? todo moved m).2 untold)
    cases leads with
    | init =>
      obtain rfl := here rfl
      exact .inl rfl
    | free =>
      obtain rfl := here rfl
      exact .inr (.inl rfl)
    | lock =>
      obtain rfl := here rfl
      exact .inr (.inr (.inl (h.holds_of_claimed at_phase)))
    | unlock =>
      obtain rfl := here rfl
      right; right
      obtain ⟨marked, -⟩ | ⟨-, unchanged⟩ := h.byte_unlock todo moved
      · obtain ⟨l, holds⟩ := h.holds_of_marked marked
        by_cases own : l = j
        · exact .inl (own ▸ holds)
        · right
          constructor
          case next => rw [todo, List.head?_cons]
          case marked => exact LockState.ofByte?_eq_some_iff.mpr marked
          case foreign => exact ⟨l, own, holds⟩
      · exact absurd unchanged changed
    | _ => exact absurd (by simp) told

/-- A move that does not decide an unlock leaves it undecided, and changes nothing about whether
the thread owns the handle. -/
theorem owner_step (h : Supervised i start phase made k)
    (undecided : Undecided m (k.thread j).todo) (todo : (k.thread l).todo = move :: rest)
    (moved : k.step? silent l = some k') (waits : l = j → move ≠ .disown m) :
  Undecided m (k'.thread j).todo
    ∧ ((k'.rig.handle m).owner = some (.started j)
      ↔ (k.rig.handle m).owner = some (.started j))
  := by
  obtain ⟨owner, -⟩ := handle_of_step? todo moved m
  by_cases own : l = j
  · subst own
    obtain ⟨notices, rest', split, recorders⟩ := undecided
    cases notices with
    | nil =>
      rw [todo] at split
      exact absurd (List.cons.inj split).1 (waits rfl)
    | cons notice notices =>
      rw [todo] at split
      obtain ⟨rfl, rfl⟩ := List.cons.inj split
      obtain ⟨t, n, o, rfl⟩ := recorders _ List.mem_cons_self
      constructor
      · refine ⟨notices, rest', ?_, fun a mem => recorders a (List.mem_cons_of_mem _ mem)⟩
        rw [Machine.step?, todo] at moved
        cases moved
        simp [setThread]
      · simp [owner]
  · constructor
    · rw [(thread_of_step? moved).2 j (Ne.symm own)]
      exact undecided
    · rw [owner]
      by_cases claims : move = .claim m
      · subst claims
        have next := h.ahead l
        rw [todo] at next
        generalize at_phase : phase l = q at next
        cases next with
        | move leads _ =>
          cases leads with
          | claim => simp [h.unowned_of_acquired at_phase, own]
      · rw [if_neg claims]
        split
        · next disowns => simp [disowns.2, own]
        · rfl

/-- The monitor is told of an unlock before it is decided, and that does not change the owner. -/
theorem undecided_of_told (h : Supervised i start phase made k)
    (todo : (k.thread j).todo = .notify .unlocking m (.monitor i) :: rest)
    (moved : k.step? silent j = some k') :
  Undecided m (k'.thread j).todo ∧ (k'.rig.handle m).owner = (k.rig.handle m).owner
  := by
  constructor
  · have next := h.ahead j
    rw [todo] at next
    have left : (k'.thread j).todo = rest := by
      rw [Machine.step?, todo] at moved
      cases moved
      simp [setThread]
    rw [left]
    generalize phase j = q at next
    cases next with
    | move leads after =>
      cases leads with
      | unlock => exact after.undecided
  · obtain ⟨owner, -⟩ := handle_of_step? todo moved m
    simpa using owner

/-- Until an unlock is decided nothing changes about whether the thread owns the handle. -/
theorem owner_run (h : Supervised i start phase made k) (undecided : Undecided m (k.thread j).todo)
    (schedule : List Nat) (waits : (j, .disown m) ∉ k.made silent schedule) :
  ((k.run silent schedule).rig.handle m).owner = some (.started j)
    ↔ (k.rig.handle m).owner = some (.started j)
  := by
  induction schedule generalizing phase made k with
  | nil => rfl
  | cons l schedule ih =>
    rw [Machine.made] at waits
    rw [Machine.run, List.foldl_cons, Machine.step]
    cases moved : k.step? silent l with
    | none =>
      rw [moved] at waits
      exact ih h undecided waits
    | some k' =>
      obtain ⟨p, move, head, after⟩ := h.step? moved
      obtain ⟨rest, todo⟩ : ∃ rest, (k.thread l).todo = move :: rest := by
        cases todo : (k.thread l).todo with
        | nil => simp [todo] at head
        | cons a rest =>
          rw [todo] at head
          obtain rfl := Option.some.inj head
          exact ⟨rest, rfl⟩
      simp only [moved, head, Option.toList_some, List.map_cons, List.map_nil, List.cons_append,
        List.nil_append, List.mem_cons, not_or] at waits
      obtain ⟨still, same⟩ := h.owner_step undecided todo moved (by
        rintro rfl rfl
        exact waits.1 rfl)
      exact (ih after still waits.2).trans same

end Supervised

/-- A thread can always tell somebody of something. -/
theorem exists_told {t : Notice} {o : Observer}
    (next : (k.thread j).todo.head? = some (.notify t m o)) :
  ∃ rest, (k.thread j).todo = .notify t m o :: rest ∧ k.step? silent j = some (k.step silent j)
  := by
  obtain ⟨rest, todo⟩ := List.head?_eq_some_iff.mp next
  use rest, todo
  simp [Machine.step, Machine.step?, todo]

/-- Deciding an unlock refuses it exactly if the thread is not the owner. -/
theorem refused_iff (next : (k.thread j).todo.head? = some (.disown m)) :
  ((k.step silent j).thread j).statuses = (k.thread j).statuses ++ [.refused .lockFailure]
    ↔ (k.rig.handle m).owner ≠ some (.started j)
  := by
  obtain ⟨rest, todo⟩ := List.head?_eq_some_iff.mp next
  by_cases owner : (k.rig.handle m).owner = some (.started j)
  · simp [Machine.step, Machine.step?, todo, Handle.disown?, owner, setThread]
  · simp [Machine.step, Machine.step?, todo, Handle.disown?, owner, setThread]

end Machine

namespace Rig

variable {σ : Type} [Sink σ] {r : Rig σ} {i x : Nat}

/-- Threads make any calls through the context of an enabled monitor, and `k` is any moment.  A
move that is no part of initialising or freeing the handle changes the byte of a handle only if
the thread holds the handle, exactly if it does not trespass.  A trespass marks the handle as idle.
Whether an unlock is refused is settled when the monitor is told of it: it is, exactly if the
thread does not hold the handle then. -/
theorem changed_by_holder_iff (inactive : (r.monitor i).replaced = none)
    (free : (r.monitor i).tally.held = false)
    (alone : ∀ j, .monitor j ∉ (r.context x).observers)
    (created : ∀ m, ∃ b, b ≠ LockState.locked.byte ∧ r.handle m = .ofByte b)
    (calls : Nat → List (Call × Nat)) (schedule : List Nat) (j m : Nat) :
  let threads := (r.enable i x).2.callers x calls
  let k := threads.run silent schedule
  let made := threads.made silent schedule
  let k' := k.step silent j
  (((k'.rig.handle m).byte ≠ (k.rig.handle m).byte →
      (k.thread j).todo.head? = some (.notify .initialised m (.monitor i))
        ∨ (k.thread j).todo.head? = some (.notify .freeing m (.monitor i))
        ∨ k.Holds made j m)
      ↔ ¬ k.Trespass i made j m)
    ∧ (k.Trespass i made j m → (k'.rig.handle m).byte = LockState.idle.byte)
    ∧ ((k.thread j).todo.head? = some (.notify .unlocking m (.monitor i)) →
      ∀ later, (j, .disown m) ∉ k'.made silent later →
        let k₁ := k'.run silent later
        (k₁.thread j).todo.head? = some (.disown m) →
        (((k₁.step silent j).thread j).statuses
            = (k₁.thread j).statuses ++ [.refused .lockFailure]
          ↔ ¬ k.Holds made j m))
  := by
  intro threads k made k'
  obtain ⟨phase, supervised⟩ : ∃ phase, k.Supervised i (r.enable i x).2.transcript phase made :=
    (supervised_callers inactive free alone created calls).run schedule
  have idle (trespass : k.Trespass i made j m) : (k'.rig.handle m).byte = LockState.idle.byte := by
    obtain ⟨rest, todo, moved⟩ := Machine.exists_told trespass.next
    have marked : (k.rig.handle m).Marked := LockState.ofByte?_eq_some_iff.mp trespass.marked
    obtain ⟨-, idle⟩ | ⟨unmarked, -⟩ := supervised.byte_unlock todo moved
    · exact idle
    · exact absurd marked unmarked
  refine ⟨⟨?_, ?_⟩, idle, ?_⟩
  · intro honest trespass
    have marked : (k.rig.handle m).byte = LockState.locked.byte :=
      LockState.ofByte?_eq_some_iff.mp trespass.marked
    obtain init | free | holds := honest (by rw [idle trespass, marked]; decide)
    · cases trespass.next.symm.trans init
    · cases trespass.next.symm.trans free
    · exact trespass.not_holds holds
  · intro honest changed
    cases moved : k.step? silent j with
    | none => exact absurd (by simp [k', Machine.step, moved]) changed
    | some k'' =>
      obtain rfl : k' = k'' := Machine.step_of_step? moved
      obtain init | free | holds | trespass := supervised.of_changed moved changed
      · exact .inl init
      · exact .inr (.inl free)
      · exact .inr (.inr holds)
      · exact absurd trespass honest
  · intro next later waits k₁ decides
    obtain ⟨rest, todo, moved⟩ := Machine.exists_told next
    obtain ⟨undecided, same⟩ := supervised.undecided_of_told todo moved
    obtain ⟨p, move, -, after⟩ := supervised.step? moved
    have settled : (k₁.rig.handle m).owner = some (.started j)
        ↔ (k'.rig.handle m).owner = some (.started j) :=
      after.owner_run undecided later waits
    have holds_iff : k.Holds made j m ↔ (k.rig.handle m).owner = some (.started j) :=
      ⟨Machine.Holds.owner, supervised.holds_of_owner⟩
    rw [Machine.refused_iff decides, ne_eq, settled, same, holds_iff]

/-- One thread initialises a handle, locks it and unlocks it, and another one unlocks it. -/
def intruders : Nat → List (Call × Nat)
  | 0 => [(.init, 0), (.lock, 0), (.unlock, 0)]
  | 1 => [(.unlock, 0)]
  | _ => []

/-- The second thread trespasses when the first one has locked the handle, and is refused. -/
theorem changed_by_holder_iff_intruders :
  let start := ((⟨.substitute, 2, 0, false⟩ : Contest).rig.enable 0 0).2
  let threads := start.callers 0 intruders
  let k := threads.run silent [0, 0, 0, 0]
  let made := threads.made silent [0, 0, 0, 0]
  let k' := k.step silent 1
  k.Trespass 0 made 1 0
    ∧ (k'.rig.handle 0).byte = LockState.idle.byte
    ∧ ((k'.step silent 1).thread 1).statuses = [.refused .lockFailure]
  := by
  intro start threads k made k'
  obtain ⟨-, idle, decided⟩ := changed_by_holder_iff
    (r := (⟨.substitute, 2, 0, false⟩ : Contest).rig) (i := 0) (x := 0) rfl rfl
    (fun _ => List.not_mem_nil) (fun _ => ⟨0, by decide, rfl⟩) intruders [0, 0, 0, 0] 1 0
  have trespass : k.Trespass 0 made 1 0 := by
    constructor
    case next => decide +kernel
    case marked => decide +kernel
    case foreign =>
      use 0, by decide
      constructor
      case taken =>
        use [(0, .notify .initialised 0 (.monitor 0))],
          [(0, .claim 0), (0, .notify (.locked .ok) 0 (.monitor 0))]
        constructor
        · decide +kernel
        · simp
      case locked => decide +kernel
      case owner => decide +kernel
  refine ⟨trespass, idle trespass, ?_⟩
  apply (decided trespass.next [] List.not_mem_nil (by decide +kernel)).mpr trespass.not_holds

/-- A thread that does not hold the handle moves its byte from locked to idle, its unlock is
refused, and the unlock of the thread that does hold it is reported as one without a lock. -/
theorem changed_by_intruder :
  let start := ((⟨.substitute, 2, 0, false⟩ : Contest).rig.enable 0 0).2
  let threads := start.callers 0 intruders
  let k := threads.run silent [0, 0, 0, 0]
  let made := threads.made silent [0, 0, 0, 0]
  let k' := k.step silent 1
  let after := k'.run silent [1, 0, 0, 0]
  (k.thread 1).todo.head? = some (.notify .unlocking 0 (.monitor 0))
    ∧ ¬ k.Holds made 1 0
    ∧ (k.rig.handle 0).byte = LockState.locked.byte
    ∧ (k'.rig.handle 0).byte = LockState.idle.byte
    ∧ (after.thread 1).statuses = [.refused .lockFailure]
    ∧ (after.thread 0).statuses = [.ok, .ok]
    ∧ .logged (.violated .unlockWithoutLock .unlock) ∈ after.rig.transcript
  := by
  intro start threads k made k' after
  have owner : (k.rig.handle 0).owner = some (.started 0) := by decide +kernel
  refine ⟨by decide +kernel, ?_, by decide +kernel, by decide +kernel, by decide +kernel,
    by decide +kernel, by decide +kernel⟩
  intro holds
  cases holds.owner.symm.trans owner

end Rig

end LockDiscipline
