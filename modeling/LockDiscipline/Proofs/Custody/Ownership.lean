import LockDiscipline.Proofs.Custody.Trespass

/-!
# Native ownership

Whoever is told of calls, the platform locks of handles and their owners are the business of
four moves.  A thread is in the middle of taking a platform lock, or of leaving it, or apart
from all (`Stage`), and the moves that it has left fit its stage (`Staged`).  The history of
moves tells who is `Inside` a handle, between taking and releasing it.

`Machine.Tenured` says that such a thread is alone, the `Tenant` of the handle, that it is the
owner unless it is in the middle of taking or leaving, and that releases were made by the thread
that took the platform lock last.  Each move keeps this (`Machine.Tenured.step?`), so that every
schedule does (`Machine.Tenured.run`).
-/

namespace LockDiscipline

/-- Where a thread is, as far as platform locks are concerned. -/
inductive Stage where
  | apart
  /-- The thread has taken a platform lock, and is not the owner yet. -/
  | taking (m : Nat)
  /-- The thread is the owner no more, and is going to release the platform lock. -/
  | leaving (m : Nat)

/-- Not in the middle of taking or leaving handle `m`. -/
def Stage.Clear (m : Nat) (s : Stage) : Prop := s ≠ taking m ∧ s ≠ leaving m

@[simp]
theorem Stage.clear_apart (m : Nat) :
  apart.Clear m
  := by simp [Clear]

/-- The moves that a thread has left lead from its stage to the end of a list of calls. -/
inductive Staged : Stage → List Move → Prop
  | done : Staged .apart []
  | notify {rest : List Move} (t : Notice) (m : Nat) (o : Observer) :
      Staged .apart rest → Staged .apart (.notify t m o :: rest)
  | acquire {m : Nat} {rest : List Move} :
      Staged (.taking m) rest → Staged .apart (.acquire m :: rest)
  | claim {m : Nat} {rest : List Move} :
      Staged .apart rest → Staged (.taking m) (.claim m :: rest)
  | disown {m : Nat} {rest : List Move} :
      Staged (.leaving m) rest → Staged .apart (.disown m :: rest)
  | release {m : Nat} {rest : List Move} :
      Staged .apart rest → Staged (.leaving m) (.release m :: rest)

namespace Staged

variable {os : List Observer} {m : Nat} {rest : List Move}

theorem notices (h : Staged .apart rest) (os : List Observer) (t : Notice) (m : Nat) :
  Staged .apart (os.map (.notify t m) ++ rest)
  := by
  induction os with
  | nil => exact h
  | cons o os ih => exact .notify t m o ih

theorem call (h : Staged .apart rest) (os : List Observer) (m : Nat) (c : Call) :
  Staged .apart (c.moves os m ++ rest)
  := by
  cases c with
  | init => exact h.notices os .initialised m
  | free => exact h.notices os.reverse .freeing m
  | lock => exact .acquire (.claim (h.notices os (.locked .ok) m))
  | unlock =>
    rw [Call.moves, List.append_assoc]
    exact (Staged.disown (.release h)).notices os.reverse .unlocking m

theorem calls (os : List Observer) (qs : List (Call × Nat)) :
  Staged .apart (qs.flatMap fun q => q.1.moves os q.2)
  := by
  induction qs with
  | nil => exact .done
  | cons q qs ih =>
    rw [List.flatMap_cons]
    exact ih.call os q.2 q.1

end Staged

/-! ### What the history tells -/

section History

variable {m i j : Nat} {move : Move} {made : List (Nat × Move)}

/-- Thread `j` was the last to take the platform lock of handle `m`, and nobody has released it
since. -/
def Latest (m j : Nat) (made : List (Nat × Move)) : Prop :=
  ∃ pre post, made = pre ++ (j, .acquire m) :: post
    ∧ ∀ l, (l, .acquire m) ∉ post ∧ (l, .release m) ∉ post

/-- Thread `j` is between taking and releasing the platform lock of handle `m`. -/
def Inside (m j : Nat) (made : List (Nat × Move)) : Prop :=
  ∃ pre post, made = pre ++ (j, .acquire m) :: post ∧ (j, .release m) ∉ post

/-- Thread `j` has completed a lock of handle `m`, which it has not released since. -/
def Completed (m j : Nat) (made : List (Nat × Move)) : Prop :=
  ∃ pre mid post, made = pre ++ (j, .acquire m) :: (mid ++ (j, .claim m) :: post)
    ∧ (j, .release m) ∉ mid ++ post

theorem Latest.inside (h : Latest m j made) :
  Inside m j made
  := by
  obtain ⟨pre, post, split, quiet⟩ := h
  exact ⟨pre, post, split, (quiet j).2⟩

theorem Completed.inside (h : Completed m j made) :
  Inside m j made
  := by
  obtain ⟨pre, mid, post, split, quiet⟩ := h
  refine ⟨pre, mid ++ (j, .claim m) :: post, split, ?_⟩
  simpa using quiet

theorem latest_acquire (m j : Nat) (made : List (Nat × Move)) :
  Latest m j (made ++ [(j, .acquire m)])
  := ⟨made, [], rfl, fun _ => ⟨List.not_mem_nil, List.not_mem_nil⟩⟩

theorem Latest.concat (h : Latest m j made) (i : Nat) (acquires : move ≠ .acquire m)
    (releases : move ≠ .release m) :
  Latest m j (made ++ [(i, move)])
  := by
  obtain ⟨pre, post, rfl, quiet⟩ := h
  refine ⟨pre, post ++ [(i, move)], by simp, ?_⟩
  intro l
  simp [quiet l, acquires.symm, releases.symm]

theorem Completed.concat (h : Completed m j made) (stays : (i, move) ≠ (j, .release m)) :
  Completed m j (made ++ [(i, move)])
  := by
  obtain ⟨pre, mid, post, rfl, quiet⟩ := h
  refine ⟨pre, mid, post ++ [(i, move)], by simp, ?_⟩
  rw [← List.append_assoc, List.mem_append, not_or]
  exact ⟨quiet, by simpa using stays.symm⟩

theorem Inside.completed (h : Inside m j made) :
  Completed m j (made ++ [(j, .claim m)])
  := by
  obtain ⟨pre, post, rfl, quiet⟩ := h
  exact ⟨pre, post, [], by simp, by simpa using quiet⟩

/-- A move in a history is the last one, or it is in the history before that. -/
theorem split_concat {made pre post : List (Nat × Move)} {p q : Nat × Move}
    (split : made ++ [p] = pre ++ q :: post) :
  (pre = made ∧ q = p ∧ post = []) ∨ ∃ post', post = post' ++ [p] ∧ made = pre ++ q :: post'
  := by
  obtain rfl | ⟨post', last, rfl⟩ := post.eq_nil_or_concat'
  · obtain ⟨rfl, same⟩ := List.append_inj' split rfl
    exact .inl ⟨rfl, (List.singleton_inj.mp same).symm, rfl⟩
  · rw [← List.cons_append, ← List.append_assoc] at split
    obtain ⟨before, same⟩ := List.append_inj' split rfl
    obtain rfl := List.singleton_inj.mp same
    exact .inr ⟨post', rfl, before⟩

/-- Who is inside after a move has just taken the platform lock, or was inside and has not just
released it. -/
theorem Inside.of_concat (h : Inside m j (made ++ [(i, move)])) :
  (i, move) = (j, .acquire m) ∨ Inside m j made ∧ (i, move) ≠ (j, .release m)
  := by
  obtain ⟨pre, post, split, quiet⟩ := h
  obtain ⟨-, taken, -⟩ | ⟨post, rfl, before⟩ := split_concat split
  · exact .inl taken.symm
  · rw [List.mem_append, List.mem_singleton, not_or] at quiet
    exact .inr ⟨⟨pre, post, before, quiet.1⟩, Ne.symm quiet.2⟩

/-- Whoever is inside after a move that does not take the platform lock was inside before, and has
not just released it. -/
theorem Inside.of_concat_of_ne (h : Inside m j (made ++ [(i, move)]))
    (acquires : move ≠ .acquire m) :
  Inside m j made ∧ (i, move) ≠ (j, .release m)
  := by
  obtain taken | before := h.of_concat
  · exact absurd (Prod.mk.inj taken).2 acquires
  · exact before

/-- The platform lock of handle `m` was only released by the last thread that took it, before
anybody else released it. -/
def Lawful (m : Nat) (made : List (Nat × Move)) : Prop :=
  ∀ before j after, made = before ++ (j, .release m) :: after → Latest m j before

theorem Lawful.concat (h : Lawful m made) (latest : move = .release m → Latest m i made) :
  Lawful m (made ++ [(i, move)])
  := by
  intro before j after split
  obtain ⟨rfl, released, -⟩ | ⟨after, -, earlier⟩ := split_concat split
  · obtain ⟨rfl, rfl⟩ := Prod.mk.inj released
    exact latest rfl
  · exact h before j after earlier

end History

/-! ### Who has a handle -/

/-- Thread `j` was the last to take the platform lock of handle `m`.  Nobody else is inside, or in
the middle of taking or leaving. -/
structure Tenant (m j : Nat) (made : List (Nat × Move)) (stage : Family Stage) (h : Handle) :
    Prop where
  locked : h.locked = true
  latest : Latest m j made
  sole : ∀ l, Inside m l made → l = j
  others : ∀ l, l ≠ j → (stage l).Clear m

/-- The platform lock of handle `m` is free, or it has a tenant, who is the owner unless it is in
the middle of taking or leaving. -/
inductive Tenure (m : Nat) (made : List (Nat × Move)) (stage : Family Stage) (h : Handle) : Prop
  | vacant : h.locked = false → h.owner = none → (∀ l, (stage l).Clear m) →
      (∀ l, ¬ Inside m l made) → Tenure m made stage h
  | held (j : Nat) : Tenant m j made stage h →
      (¬ (stage j).Clear m ∧ h.owner = none
        ∨ (stage j).Clear m ∧ h.owner = some (.started j) ∧ Completed m j made) →
      Tenure m made stage h

section

variable {m i j : Nat} {move : Move} {made : List (Nat × Move)} {stage : Family Stage}
  {h h' : Handle} {s : Stage}

/-- Whoever was in the middle of nothing still is after a move of thread `i`, if it is so of `i`. -/
theorem Stage.clear_set {l : Nat} (cleared : (stage l).Clear m) (after : l = i → s.Clear m) :
  (stage.set i s l).Clear m
  := by
  by_cases here : l = i
  · rw [here, Family.set_self]
    exact after here
  · rw [Family.set_of_ne _ _ here]
    exact cleared

/-- A tenant stays until it releases the platform lock. -/
theorem Tenant.stay (t : Tenant m j made stage h) (locked : h'.locked = h.locked)
    (acquires : move ≠ .acquire m) (releases : move ≠ .release m) (after : i ≠ j → s.Clear m) :
  Tenant m j (made ++ [(i, move)]) (stage.set i s) h'
  := by
  constructor
  case locked => exact locked.trans t.locked
  case latest => exact t.latest.concat i acquires releases
  case sole => exact fun l inside => t.sole l (inside.of_concat_of_ne acquires).1
  case others =>
    intro l other
    apply Stage.clear_set (t.others l other)
    rintro rfl
    exact after other

namespace Tenure

/-- A move that has nothing to do with the platform lock of a handle and its owner. -/
theorem aside (t : Tenure m made stage h) (locked : h'.locked = h.locked)
    (owner : h'.owner = h.owner) (acquires : move ≠ .acquire m) (releases : move ≠ .release m)
    (before : (stage i).Clear m) (after : s.Clear m) :
  Tenure m (made ++ [(i, move)]) (stage.set i s) h'
  := by
  cases t with
  | vacant free unowned cleared nobody =>
    exact .vacant (locked.trans free) (owner.trans unowned)
      (fun l => Stage.clear_set (cleared l) fun _ => after)
      fun l inside => nobody l (inside.of_concat_of_ne acquires).1
  | held j tenant grip =>
    refine .held j (tenant.stay locked acquires releases fun _ => after) ?_
    obtain ⟨midway, unowned⟩ | ⟨apart, owned, completed⟩ := grip
    · left
      have other : j ≠ i := by
        rintro rfl
        exact midway before
      rw [Family.set_of_ne _ _ other]
      exact ⟨midway, owner.trans unowned⟩
    · right
      refine ⟨Stage.clear_set apart fun _ => after, owner.trans owned, completed.concat ?_⟩
      intro released
      exact releases (Prod.mk.inj released).2

/-- A thread that is in the middle of taking or leaving a handle is the tenant. -/
theorem of_midway (t : Tenure m made stage h) (midway : ¬ (stage i).Clear m) :
  h.owner = none ∧ Tenant m i made stage h
  := by
  cases t with
  | vacant _ _ cleared _ => exact absurd (cleared i) midway
  | held j tenant grip =>
    obtain rfl : i = j := by
      by_contra other
      exact midway (tenant.others i other)
    obtain ⟨-, unowned⟩ | ⟨apart, -, -⟩ := grip
    · exact ⟨unowned, tenant⟩
    · exact absurd apart midway

/-- The owner of a handle is the tenant, and has completed its lock. -/
theorem of_owner (t : Tenure m made stage h) {o : Owner} (owner : h.owner = some o) :
  ∃ i, o = .started i ∧ Completed m i made ∧ Tenant m i made stage h
  := by
  cases t with
  | vacant _ unowned _ _ => nomatch unowned.symm.trans owner
  | held j tenant grip =>
    obtain ⟨-, unowned⟩ | ⟨-, owned, completed⟩ := grip
    · nomatch unowned.symm.trans owner
    · obtain rfl := Option.some.inj (owner.symm.trans owned)
      exact ⟨j, rfl, completed, tenant⟩

/-- Whoever is inside is the tenant. -/
theorem of_inside (t : Tenure m made stage h) (inside : Inside m i made) :
  Tenant m i made stage h
  := by
  cases t with
  | vacant _ _ _ nobody => exact absurd inside (nobody i)
  | held j tenant _ =>
    obtain rfl := tenant.sole i inside
    exact tenant

/-- A thread that has completed a lock, and is not in the middle of leaving, is the owner. -/
theorem owner_of_completed (t : Tenure m made stage h) (completed : Completed m i made)
    (apart : (stage i).Clear m) :
  h.owner = some (.started i)
  := by
  cases t with
  | vacant _ _ _ nobody => exact absurd completed.inside (nobody i)
  | held j tenant grip =>
    obtain rfl := tenant.sole i completed.inside
    obtain ⟨midway, -⟩ | ⟨-, owned, -⟩ := grip
    · exact absurd apart midway
    · exact owned

theorem acquire (t : Tenure m made stage h) (free : h.locked = false) (i : Nat) :
  Tenure m (made ++ [(i, .acquire m)]) (stage.set i (.taking m)) h.acquire
  := by
  cases t with
  | held j tenant => exact absurd (tenant.locked.symm.trans free) nofun
  | vacant _ unowned cleared nobody =>
    refine .held i ⟨rfl, latest_acquire m i made, ?_, ?_⟩ (.inl ⟨?_, unowned⟩)
    · intro l inside
      obtain taken | ⟨before, -⟩ := inside.of_concat
      · exact (Prod.mk.inj taken).1.symm
      · exact absurd before (nobody l)
    · exact fun l other => Stage.clear_set (cleared l) fun here => absurd here other
    · rw [Family.set_self]
      exact fun clear => clear.1 rfl

theorem claim (t : Tenure m made stage h) (taking : stage i = .taking m) :
  Tenure m (made ++ [(i, .claim m)]) (stage.set i .apart) (h.claim (.started i))
  := by
  obtain ⟨-, tenant⟩ := t.of_midway (i := i) fun clear => clear.1 taking
  refine .held i (tenant.stay rfl nofun nofun (absurd rfl)) (.inr ⟨?_, rfl, ?_⟩)
  · rw [Family.set_self]
    exact Stage.clear_apart m
  · exact tenant.latest.inside.completed

theorem disown (t : Tenure m made stage h) (owner : h.owner = some (.started i)) :
  Tenure m (made ++ [(i, .disown m)]) (stage.set i (.leaving m)) { h with owner := none }
  := by
  obtain ⟨_, same, -, tenant⟩ := t.of_owner owner
  obtain rfl := Owner.started.inj same
  refine .held i (tenant.stay rfl nofun nofun (absurd rfl)) (.inl ⟨?_, rfl⟩)
  rw [Family.set_self]
  exact fun clear => clear.2 rfl

theorem release (t : Tenure m made stage h) (leaving : stage i = .leaving m) :
  Tenure m (made ++ [(i, .release m)]) (stage.set i .apart) h.release
  := by
  obtain ⟨unowned, tenant⟩ := t.of_midway (i := i) fun clear => clear.2 leaving
  refine .vacant rfl unowned ?_ ?_
  · intro l
    by_cases here : l = i
    · rw [here, Family.set_self]
      exact Stage.clear_apart m
    · exact Stage.clear_set (tenant.others l here) fun same => absurd same here
  · -- Only the tenant was inside, and it has just released the platform lock.
    intro l inside
    obtain ⟨before, stays⟩ := inside.of_concat_of_ne nofun
    exact stays (by rw [tenant.sole l before])

end Tenure

end

namespace Machine

variable {σ : Type}

/-- Everybody has moves ahead that fit the stage, and releases were lawful so far. -/
structure Tenured (m : Nat) (made : List (Nat × Move)) (stage : Family Stage) (k : Machine σ) :
    Prop where
  staged : ∀ j, Staged (stage j) (k.thread j).todo
  tenure : Tenure m made stage (k.rig.handle m)
  lawful : Lawful m made

namespace Tenured

variable {m n i j : Nat} {made : List (Nat × Move)} {stage : Family Stage} {k k' : Machine σ}
  {s : Stage} {move : Move} {rest : List Move}

/-- A move of thread `j` on handle `n` leaves everybody else and all other handles as they are. -/
theorem advance (h : Tenured m made stage k) {r : Rig σ} {t : Thread} {c : Nat}
    (others : ∀ l, l ≠ n → (r.handle l).locked = (k.rig.handle l).locked
      ∧ (r.handle l).owner = (k.rig.handle l).owner)
    (spares : m ≠ n → move ≠ .acquire m ∧ move ≠ .release m ∧ (stage j).Clear m ∧ s.Clear m)
    (ahead : Staged s t.todo)
    (tenure : m = n → Tenure m (made ++ [(j, move)]) (stage.set j s) (r.handle m))
    (latest : move = .release m → Latest m j made) :
  Tenured m (made ++ [(j, move)]) (stage.set j s)
    { rig := r, thread := k.thread.set j t, counter := c }
  := by
  constructor
  case staged =>
    intro l
    by_cases here : l = j
    · subst here
      simpa using ahead
    · simpa [here] using h.staged l
  case tenure =>
    by_cases here : m = n
    · exact tenure here
    · obtain ⟨acquires, releases, before, after⟩ := spares here
      exact h.tenure.aside (others m here).1 (others m here).2 acquires releases before after
  case lawful => exact h.lawful.concat latest

/-- A thread that is about to disown a handle is in no middle, and the release comes next. -/
theorem of_disown (h : Tenured m made stage k) (todo : (k.thread j).todo = .disown m :: rest) :
  (stage j).Clear m ∧ ∃ later, rest = .release m :: later
  := by
  have next := h.staged j
  rw [todo] at next
  generalize stage j = q at next
  cases next with
  | disown after =>
    cases after with
    | release finished => exact ⟨Stage.clear_apart m, _, rfl⟩

variable [Sink σ]

/-- Every move that a thread makes leads it to another stage. -/
theorem step? (h : Tenured m made stage k) (moved : k.step? silent j = some k') :
  ∃ s move, (k.thread j).todo.head? = some move
    ∧ Tenured m (made ++ [(j, move)]) (stage.set j s) k'
  := by
  have next := h.staged j
  have set (n : Nat) (hd : Handle) (l : Nat) (other : l ≠ n) :
      ((k.rig.setHandle n hd).handle l).locked = (k.rig.handle l).locked
        ∧ ((k.rig.setHandle n hd).handle l).owner = (k.rig.handle l).owner := by
    simp [Rig.setHandle, other]
  generalize todo : (k.thread j).todo = moves at next
  generalize at_stage : stage j = q at next
  cases next with
  | done =>
    rw [Machine.step?, todo] at moved
    cases moved
  | notify t n o after =>
    simp only [Machine.step?, todo] at moved
    cases moved
    have platform : (k.rig.notify silent t n o).platform = k.rig.platform :=
      Rig.platform_notifyAll k.rig t n [o]
    have same (l : Nat) : ((k.rig.notify silent t n o).handle l).locked = (k.rig.handle l).locked
        ∧ ((k.rig.notify silent t n o).handle l).owner = (k.rig.handle l).owner :=
      ⟨congrArg (fun r => (r.handle l).locked) platform,
        congrArg (fun r => (r.handle l).owner) platform⟩
    refine ⟨.apart, _, rfl, h.advance (n := m) (fun l _ => same l) (absurd rfl) after ?_ (by simp)⟩
    exact fun _ => h.tenure.aside (same m).1 (same m).2 (by simp) (by simp) (by simp [at_stage])
      (by simp)
  | @acquire n rest after =>
    simp only [Machine.step?, todo] at moved
    by_cases taken : (k.rig.handle n).locked = true
    · simp only [taken, ↓reduceIte] at moved
      cases moved
    · simp only [taken] at moved
      cases moved
      refine ⟨.taking n, _, rfl, h.advance (set n _) ?_ after ?_ (by simp)⟩
      · intro other
        simp [at_stage, Stage.Clear, other.symm]
      · rintro rfl
        simpa [setHandle, Rig.setHandle] using h.tenure.acquire (by simpa using taken) j
  | @claim n rest after =>
    simp only [Machine.step?, todo] at moved
    cases moved
    refine ⟨.apart, _, rfl, h.advance (set n _) ?_ after ?_ (by simp)⟩
    · intro other
      simp [at_stage, Stage.Clear, other.symm]
    · rintro rfl
      simpa [setHandle, Rig.setHandle] using h.tenure.claim at_stage
  | @disown n rest after =>
    simp only [Machine.step?, todo] at moved
    by_cases owner : (k.rig.handle n).owner = some (.started j)
    · simp only [Handle.disown?, owner, ↓reduceIte] at moved
      cases moved
      refine ⟨.leaving n, _, rfl, h.advance (set n _) ?_ after ?_ (by simp)⟩
      · intro other
        simp [at_stage, Stage.Clear, other.symm]
      · rintro rfl
        simpa [setHandle, Rig.setHandle] using h.tenure.disown owner
    · simp only [Handle.disown?, owner, ↓reduceIte] at moved
      cases moved
      -- The unlock is refused, so the thread is apart at once.
      cases after with
      | release finished =>
        refine ⟨.apart, _, rfl,
          h.advance (n := m) (fun _ _ => ⟨rfl, rfl⟩) (absurd rfl) finished ?_ (by simp)⟩
        exact fun _ => h.tenure.aside rfl rfl (by simp) (by simp) (by simp [at_stage])
          (by simp)
  | @release n rest after =>
    simp only [Machine.step?, todo] at moved
    cases moved
    refine ⟨.apart, _, rfl, h.advance (set n _) ?_ after ?_ ?_⟩
    · intro other
      simp [at_stage, Stage.Clear, other.symm]
    · rintro rfl
      simpa [setHandle, Rig.setHandle] using h.tenure.release at_stage
    · rintro same
      obtain rfl := Move.release.inj same
      exact (h.tenure.of_midway fun clear => clear.2 at_stage).2.latest

/-- Tenure goes on in whichever order the threads move. -/
theorem run (h : Tenured m made stage k) (schedule : List Nat) :
  ∃ stage', Tenured m (made ++ k.made silent schedule) stage' (k.run silent schedule)
  := by
  apply made_induction (P := fun made k => ∃ stage, Tenured m made stage k) _ ⟨stage, h⟩
  rintro made k k' j ⟨stage, h⟩ moved
  obtain ⟨s, move, head, after⟩ := h.step? moved
  exact ⟨move, head, _, after⟩

end Tenured

variable [Sink σ] {R : Responder σ} {k : Machine σ} {j m : Nat} {rest : List Move}

/-- A thread that does not move has what it had. -/
theorem thread_run_of_not_mem {schedule : List Nat} (still : j ∉ schedule) :
  (k.run R schedule).thread j = k.thread j
  := by
  induction schedule generalizing k with
  | nil => rfl
  | cons i schedule ih =>
    rw [List.mem_cons, not_or] at still
    rw [Machine.run, List.foldl_cons, Machine.step]
    apply (ih still.2).trans
    cases moved : k.step? R i with
    | none => rfl
    | some k' => exact (thread_of_step? moved).2 j still.1

theorem step_release (todo : (k.thread j).todo = .release m :: rest) :
  (k.step R j).thread j
    = { k.thread j with todo := rest, statuses := (k.thread j).statuses ++ [.ok] }
  := by simp [Machine.step, Machine.step?, todo, setThread]

/-- An unlock by the owner ends well, whatever others do between its two moves. -/
theorem unlock_of_owner (todo : (k.thread j).todo = .disown m :: .release m :: rest)
    (owner : (k.rig.handle m).owner = some (.started j)) {others : List Nat}
    (still : j ∉ others) :
  let k' := ((k.step silent j).run silent others).step silent j
  (k'.thread j).todo = rest ∧ (k'.thread j).statuses = (k.thread j).statuses ++ [.ok]
  := by
  intro k'
  have parted : (k.step silent j).thread j = { k.thread j with todo := .release m :: rest } := by
    simp [Machine.step, Machine.step?, todo, Handle.disown?, owner, setThread]
  have waited := (thread_run_of_not_mem (R := silent) (k := k.step silent j) still).trans parted
  have released := step_release (R := silent) (congrArg Thread.todo waited)
  rw [waited] at released
  exact ⟨congrArg Thread.todo released, congrArg Thread.statuses released⟩

/-- An unlock by anybody but the owner is refused at once and leaves the rig as it is. -/
theorem unlock_of_other (todo : (k.thread j).todo = .disown m :: .release m :: rest)
    (owner : (k.rig.handle m).owner ≠ some (.started j)) :
  let k' := k.step silent j
  (k'.thread j).todo = rest
    ∧ (k'.thread j).statuses = (k.thread j).statuses ++ [.refused .lockFailure]
    ∧ k'.rig = k.rig
  := by
  intro k'
  simp [k', Machine.step, Machine.step?, todo, Handle.disown?, owner, setThread]

end Machine

namespace Rig

variable {σ : Type} {r : Rig σ} {x m : Nat}

theorem tenured_callers (free : (r.handle m).locked = false)
    (unowned : (r.handle m).owner = none) (calls : Nat → List (Call × Nat)) :
  (r.callers x calls).Tenured m [] fun _ => .apart
  := by
  constructor
  case staged => exact fun j => Staged.calls _ _
  case tenure =>
    refine .vacant free unowned (fun _ => Stage.clear_apart m) ?_
    rintro l ⟨pre, post, split, -⟩
    simp at split
  case lawful =>
    intro before j after split
    simp at split

/-- Threads make any calls, over handles of which `m` is free and has no owner, and move in any
order.  At most one of them is inside handle `m`, and somebody is exactly if the platform lock
is taken; the owner is that thread, or nobody.  The platform lock is only released by the last
thread that took it, before anybody else released it.  A thread that decides an unlock and has
completed a lock, which it has not released, goes on to release it and is answered so, whatever
others do meanwhile; anybody else is refused at once, which leaves everything as it is. -/
theorem alone_inside [Sink σ] (free : (r.handle m).locked = false)
    (unowned : (r.handle m).owner = none) (x : Nat) (calls : Nat → List (Call × Nat))
    (schedule : List Nat) :
  let threads := r.callers x calls
  let k := threads.run silent schedule
  let made := threads.made silent schedule
  (∀ j l, Inside m j made → Inside m l made → l = j)
    ∧ ((k.rig.handle m).locked = true ↔ ∃ j, Inside m j made)
    ∧ (∀ o, (k.rig.handle m).owner = some o → ∃ j, o = .started j ∧ Inside m j made)
    ∧ (∀ before j after, made = before ++ (j, .release m) :: after → Latest m j before)
    ∧ ∀ j rest, (k.thread j).todo = .disown m :: rest → ∃ later, rest = .release m :: later
      ∧ (Completed m j made → ∀ others, j ∉ others →
        let k' := ((k.step silent j).run silent others).step silent j
        (k'.thread j).todo = later ∧ (k'.thread j).statuses = (k.thread j).statuses ++ [.ok])
      ∧ (¬ Completed m j made →
        let k' := k.step silent j
        (k'.thread j).todo = later
          ∧ (k'.thread j).statuses = (k.thread j).statuses ++ [.refused .lockFailure]
          ∧ k'.rig = k.rig)
  := by
  intro threads k made
  obtain ⟨stage, tenured⟩ := (tenured_callers (x := x) free unowned calls).run schedule
  rw [List.nil_append] at tenured
  have tenure : Tenure m made stage (k.rig.handle m) := tenured.tenure
  refine ⟨fun j l inside => (tenure.of_inside inside).sole l, ⟨?_, ?_⟩, ?_, tenured.lawful, ?_⟩
  · intro taken
    cases tenure with
    | vacant free => nomatch free.symm.trans taken
    | held j tenant => exact ⟨j, tenant.latest.inside⟩
  · rintro ⟨j, inside⟩
    exact (tenure.of_inside inside).locked
  · intro o owner
    obtain ⟨j, same, completed, -⟩ := tenure.of_owner owner
    exact ⟨j, same, completed.inside⟩
  · intro j rest todo
    obtain ⟨apart, later, rfl⟩ := tenured.of_disown todo
    refine ⟨later, rfl, ?_, ?_⟩
    · intro completed others still
      exact Machine.unlock_of_owner todo (tenure.owner_of_completed completed apart) still
    · intro incomplete
      apply Machine.unlock_of_other todo
      intro owner
      obtain ⟨_, same, completed, -⟩ := tenure.of_owner owner
      obtain rfl := Owner.started.inj same
      exact incomplete completed

/-- One thread locks a handle and unlocks it, and another unlocks it before it locks it. -/
def squabblers : Nat → List (Call × Nat)
  | 0 => [(.lock, 0), (.unlock, 0)]
  | 1 => [(.unlock, 0), (.lock, 0)]
  | _ => []

/-- When the first of the squabblers has locked the handle, its unlock ends well, whatever others
do meanwhile, and that of the second is refused. -/
theorem alone_inside_squabblers :
  let r := (⟨.substitute, 2, 0, false⟩ : Contest).rig
  let k := (r.callers 0 squabblers).run silent [0, 0]
  (r.handle 0).locked = false ∧ (r.handle 0).owner = none
    ∧ (∀ others, 0 ∉ others →
      ((((k.step silent 0).run silent others).step silent 0).thread 0).statuses = [.ok, .ok])
    ∧ ((k.step silent 1).thread 1).statuses = [.refused .lockFailure]
    ∧ (k.step silent 1).rig = k.rig
  := by
  intro r k
  obtain ⟨sole, -, -, -, decided⟩ :=
    alone_inside (r := r) (m := 0) rfl rfl 0 squabblers [0, 0]
  have completed : Completed 0 0 ((r.callers 0 squabblers).made silent [0, 0]) :=
    ⟨[], [], [], by decide +kernel, by decide⟩
  have incomplete : ¬ Completed 0 1 ((r.callers 0 squabblers).made silent [0, 0]) :=
    fun other => absurd (sole 0 1 completed.inside other.inside) (by decide)
  obtain ⟨_, -, ends, -⟩ := decided 0 [.release 0] (by decide +kernel)
  obtain ⟨_, -, -, refused⟩ :=
    decided 1 [.release 0, .acquire 0, .claim 0] (by decide +kernel)
  refine ⟨rfl, rfl, ?_, (refused incomplete).2⟩
  intro others still
  exact (ends completed others still).2

end Rig

end LockDiscipline
