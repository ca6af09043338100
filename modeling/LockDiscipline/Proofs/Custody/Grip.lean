import LockDiscipline.Proofs.Custody.Phase

/-!
# Who holds a platform lock

In the history of the moves that threads have made, with the phases that they have come to,
the platform lock of a handle is free or held by the thread that took it last
(`Custody`).  What the handle looks like then depends on the phase of the holder (`Grip`): it is
marked as locked only between the moment when the monitor is told of the lock and the moment
when the monitor is told of the unlock.

For every move on the handle there is a lemma that custody is kept.  A move that neither
takes nor gives back the platform lock is a case of `Custody.pass`.
-/

namespace LockDiscipline

/-- Whether the byte of a handle says that the handle is locked. -/
def Handle.Marked (h : Handle) : Prop := h.byte = LockState.locked.byte

variable {w : Observer} {m i j : Nat} {h h' : Handle} {phase : Family Phase}
  {made pre post : List (Nat × Move)} {move : Move} {p p' : Phase}

/-- How handle `m` is held by thread `j` at a phase, if `post` is what happened since the
thread took the platform lock. -/
inductive Grip (w : Observer) (m j : Nat) (h : Handle) (post : List (Nat × Move)) :
    Phase → Prop
  | acquired :
      h.owner = none → ¬ h.Marked → (j, .notify .unlocking m w) ∉ post →
      Grip w m j h post (.acquired m)
  | claimed :
      h.owner = some (.started j) → ¬ h.Marked → (j, .notify .unlocking m w) ∉ post →
      Grip w m j h post (.claimed m)
  | holding {p : Phase} :
      ¬ p.About m → h.owner = some (.started j) →
      (h.Marked →
        (j, .notify (.locked .ok) m w) ∈ post ∧ (j, .notify .unlocking m w) ∉ post) →
      Grip w m j h post p
  | parting :
      h.owner = some (.started j) → ¬ h.Marked → Grip w m j h post (.parting m)
  | disowned :
      h.owner = none → ¬ h.Marked → Grip w m j h post (.disowned m)

namespace Grip

/-- What leaves platform lock and phase, and does not mark the handle, leaves the grip. -/
theorem keep (g : Grip w m j h post p) (owner : h'.owner = h.owner)
    (marked : h'.Marked → h.Marked) {e : Nat × Move} (untold : e ≠ (j, .notify .unlocking m w))
    (leaves : p' = p ∨ ¬ p.About m ∧ ¬ p'.About m) :
  Grip w m j h' (post ++ [e]) p'
  := by
  have later : (j, Move.notify .unlocking m w) ∉ post →
      (j, Move.notify .unlocking m w) ∉ post ++ [e] := by
    simp [untold.symm]
  obtain rfl | ⟨before, after⟩ := leaves
  · cases g with
    | acquired unowned unmarked early =>
      exact .acquired (owner.trans unowned) (unmarked ∘ marked) (later early)
    | claimed owned unmarked early =>
      exact .claimed (owner.trans owned) (unmarked ∘ marked) (later early)
    | holding away owned told =>
      apply holding away (owner.trans owned)
      intro mark
      obtain ⟨locked, locks⟩ := told (marked mark)
      exact ⟨List.mem_append_left _ locked, later locks⟩
    | parting owned unmarked => exact .parting (owner.trans owned) (unmarked ∘ marked)
    | disowned unowned unmarked => exact .disowned (owner.trans unowned) (unmarked ∘ marked)
  · cases g with
    | holding away owned told =>
      apply holding after (owner.trans owned)
      intro mark
      obtain ⟨locked, locks⟩ := told (marked mark)
      exact ⟨List.mem_append_left _ locked, later locks⟩
    | _ => simp [Phase.About, Phase.Engaged] at before

theorem owner (g : Grip w m j h post p) :
  h.owner = none ∨ h.owner = some (.started j)
  := by
  cases g with
  | acquired unowned => exact .inl unowned
  | disowned unowned => exact .inl unowned
  | claimed owned => exact .inr owned
  | holding _ owned => exact .inr owned
  | parting owned => exact .inr owned

/-- Only a handle that is held, and whose lock the monitor was told of, is marked. -/
theorem of_marked (g : Grip w m j h post p) (marked : h.Marked) :
  ¬ p.About m ∧ h.owner = some (.started j) ∧ (j, .notify (.locked .ok) m w) ∈ post
    ∧ (j, .notify .unlocking m w) ∉ post
  := by
  cases g with
  | holding away owned told => exact ⟨away, owned, told marked⟩
  | acquired _ unmarked _ => exact absurd marked unmarked
  | claimed _ unmarked _ => exact absurd marked unmarked
  | parting _ unmarked => exact absurd marked unmarked
  | disowned _ unmarked => exact absurd marked unmarked

end Grip

/-- The platform lock of handle `m` is free, or it is held by the thread that took it last in
the history `made`. -/
inductive Custody (w : Observer) (m : Nat) (h : Handle) (phase : Family Phase)
    (made : List (Nat × Move)) : Prop
  | vacant :
      h.locked = false → h.owner = none → ¬ h.Marked → (∀ j, ¬ (phase j).Engaged m) →
      Custody w m h phase made
  | held {j : Nat} {pre post : List (Nat × Move)} :
      made = pre ++ (j, .acquire m) :: post →
      (∀ l, (l, .acquire m) ∉ post ∧ (l, .release m) ∉ post) →
      h.locked = true → Grip w m j h post (phase j) →
      (∀ l, l ≠ j → ¬ (phase l).Engaged m) →
      Custody w m h phase made

namespace Custody

theorem engaged_set_of_ne {l : Nat} (other : l ≠ i) (free : ¬ (phase l).Engaged m) :
  ¬ (phase.set i p' l).Engaged m
  := by rwa [Family.set_of_ne phase p' other]

/-- The holder goes on holding the handle. -/
theorem hold (split : made = pre ++ (i, .acquire m) :: post)
    (quiet : ∀ l, (l, .acquire m) ∉ post ∧ (l, .release m) ∉ post)
    (untaken : move ≠ .acquire m) (unreleased : move ≠ .release m)
    (locked : h'.locked = true) (grip : Grip w m i h' (post ++ [(i, move)]) p')
    (others : ∀ l, l ≠ i → ¬ (phase l).Engaged m) :
  Custody w m h' (phase.set i p') (made ++ [(i, move)])
  := by
  have extended : made ++ [(i, move)] = pre ++ (i, .acquire m) :: (post ++ [(i, move)]) := by
    simp [split]
  apply held extended
  · simp [quiet, untaken.symm, unreleased.symm]
  · apply locked
  · simpa using grip
  · intro l other
    apply engaged_set_of_ne other (others l other)

/-- A move that leaves the platform lock and does not mark the handle keeps custody, if it
keeps the grip of the thread that makes it. -/
theorem pass (c : Custody w m h phase made) (locked : h'.locked = h.locked)
    (owner : h'.owner = h.owner) (marked : h'.Marked → h.Marked)
    (untaken : move ≠ .acquire m) (unreleased : move ≠ .release m)
    (unengaged : ¬ (phase i).Engaged m → ¬ p'.Engaged m)
    (grip : ∀ post, Grip w m i h post (phase i) → Grip w m i h' (post ++ [(i, move)]) p') :
  Custody w m h' (phase.set i p') (made ++ [(i, move)])
  := by
  cases c with
  | vacant unlocked unowned unmarked free =>
    apply vacant (locked.trans unlocked) (owner.trans unowned) (unmarked ∘ marked)
    intro l
    by_cases here : l = i
    · subst here
      rw [Family.set_self]
      apply unengaged (free l)
    · apply engaged_set_of_ne here (free l)
  | @held j pre post split quiet taken holds others =>
    by_cases here : j = i
    · subst here
      apply hold split quiet untaken unreleased (locked.trans taken) (grip post holds) others
    · have extended : made ++ [(i, move)] = pre ++ (j, .acquire m) :: (post ++ [(i, move)]) := by
        simp [split]
      apply held extended
      · simp [quiet, untaken.symm, unreleased.symm]
      · apply locked.trans taken
      · rw [Family.set_of_ne phase p' here]
        apply holds.keep owner marked _ (.inl rfl)
        simp [Ne.symm here]
      · intro l other
        by_cases mover : l = i
        · subst mover
          rw [Family.set_self]
          apply unengaged (others l other)
        · apply engaged_set_of_ne mover (others l other)

/-- A thread in the middle of taking or giving back the platform lock holds it. -/
theorem of_engaged (c : Custody w m h phase made) (engaged : (phase i).Engaged m) :
  ∃ pre post, made = pre ++ (i, .acquire m) :: post
    ∧ (∀ l, (l, .acquire m) ∉ post ∧ (l, .release m) ∉ post)
    ∧ h.locked = true ∧ Grip w m i h post (phase i) ∧ ∀ l, l ≠ i → ¬ (phase l).Engaged m
  := by
  cases c with
  | vacant unlocked unowned unmarked free => exact absurd engaged (free i)
  | @held j pre post split quiet taken holds others =>
    obtain rfl : i = j := by
      by_contra other
      apply others i other engaged
    use pre, post

/-- Meanwhile the handle is not marked. -/
theorem unmarked (c : Custody w m h phase made) (engaged : (phase i).Engaged m) :
  ¬ h.Marked
  := by
  intro marked
  obtain ⟨_, _, -, -, -, grip, -⟩ := c.of_engaged engaged
  apply (grip.of_marked marked).1 (.inl engaged)

/-- The owner holds the platform lock. -/
theorem of_owner (c : Custody w m h phase made) (owner : h.owner = some (.started i)) :
  ∃ pre post, made = pre ++ (i, .acquire m) :: post
    ∧ (∀ l, (l, .acquire m) ∉ post ∧ (l, .release m) ∉ post)
    ∧ h.locked = true ∧ Grip w m i h post (phase i) ∧ ∀ l, l ≠ i → ¬ (phase l).Engaged m
  := by
  cases c with
  | vacant unlocked unowned unmarked free => cases unowned.symm.trans owner
  | @held j pre post split quiet taken holds others =>
    obtain rfl : i = j := by
      obtain unowned | owned := holds.owner
      · cases unowned.symm.trans owner
      · simpa using owner.symm.trans owned
    use pre, post

/-! ### One lemma for each move -/

/-- What happens on another handle does not matter. -/
theorem elsewhere (c : Custody w m h phase made) (spares : (phase i).Spares w m move p') :
  Custody w m h (phase.set i p') (made ++ [(i, move)])
  := by
  obtain ⟨untaken, unreleased, untold, leaves⟩ := spares
  apply c.pass rfl rfl id untaken unreleased
  · obtain rfl | ⟨-, after⟩ := leaves
    · exact id
    · intro _ engaged
      apply after (.inl engaged)
  · intro post grip
    apply grip.keep rfl id _ leaves
    simp [untold]

/-- A notice that neither marks the handle nor is about an unlock does not matter. -/
theorem notice (c : Custody w m h phase made) (locked : h'.locked = h.locked)
    (owner : h'.owner = h.owner) (marked : h'.Marked → h.Marked) {t : Notice} {o : Observer}
    (untold : Move.notify t m o ≠ .notify .unlocking m w) (stays : p' = phase i) :
  Custody w m h' (phase.set i p') (made ++ [(i, .notify t m o)])
  := by
  subst stays
  apply c.pass locked owner marked (by simp) (by simp) id
  intro post grip
  apply grip.keep owner marked _ (.inl rfl)
  simpa using untold

theorem acquire (c : Custody w m h phase made) (unlocked : h.locked = false) :
  Custody w m h.acquire (phase.set i (.acquired m)) (made ++ [(i, .acquire m)])
  := by
  cases c with
  | vacant _ unowned unmarked free =>
    have begun : made ++ [(i, .acquire m)] = made ++ (i, .acquire m) :: [] := rfl
    apply held begun
    · simp
    · rfl
    · rw [Family.set_self]
      exact .acquired unowned unmarked (by simp)
    · intro l other
      apply engaged_set_of_ne other (free l)
  | held _ _ taken => cases unlocked.symm.trans taken

theorem claim (c : Custody w m h phase made) (acquired : phase i = .acquired m) :
  Custody w m (h.claim (.started i)) (phase.set i (.claimed m)) (made ++ [(i, .claim m)])
  := by
  obtain ⟨pre, post, split, quiet, taken, grip, others⟩ := c.of_engaged (.inl acquired)
  rw [acquired] at grip
  refine hold split quiet (by simp) (by simp) taken ?_ others
  cases grip with
  | acquired unowned unmarked early =>
    refine .claimed rfl unmarked ?_
    simpa using early
  | holding away => simp [Phase.About, Phase.Engaged] at away

/-- The monitor is told of the lock, and may mark the handle. -/
theorem lock (c : Custody w m h phase made) (claimed : phase i = .claimed m)
    (locked : h'.locked = h.locked) (owner : h'.owner = h.owner) :
  Custody w m h' (phase.set i .outside) (made ++ [(i, .notify (.locked .ok) m w)])
  := by
  obtain ⟨pre, post, split, quiet, taken, grip, others⟩ :=
    c.of_engaged (i := i) (.inr (.inl claimed))
  rw [claimed] at grip
  refine hold split quiet (by simp) (by simp) (locked.trans taken) ?_ others
  cases grip with
  | claimed owned unmarked early =>
    apply Grip.holding _ (owner.trans owned)
    · intro _
      simp [early]
    · simp [Phase.About]
  | holding away => simp [Phase.About, Phase.Engaged] at away

/-- The monitor is told of an unlock, and the handle is no longer marked, whoever it is that
makes the call. -/
theorem unlock (c : Custody w m h phase made) (outside : phase i = .outside)
    (locked : h'.locked = h.locked) (owner : h'.owner = h.owner) (unmarked : ¬ h'.Marked) :
  Custody w m h' (phase.set i (.parting m)) (made ++ [(i, .notify .unlocking m w)])
  := by
  apply c.pass locked owner (absurd · unmarked) (by simp) (by simp)
  · simp
  · intro post grip
    rw [outside] at grip
    cases grip with
    | holding away owned => apply Grip.parting (owner.trans owned) unmarked

/-- Nobody but the holder can be disowned. -/
theorem disown (c : Custody w m h phase made) (parting : phase i = .parting m)
    (owner : h.owner = some (.started i)) :
  Custody w m { h with owner := none } (phase.set i (.disowned m)) (made ++ [(i, .disown m)])
  := by
  obtain ⟨pre, post, split, quiet, taken, grip, others⟩ := c.of_owner owner
  rw [parting] at grip
  refine hold split quiet (by simp) (by simp) taken ?_ others
  cases grip with
  | parting _ unmarked => exact .disowned rfl unmarked
  | holding away => simp [Phase.About] at away

/-- An unlock by anybody else is refused. -/
theorem refuse (c : Custody w m h phase made) (parting : phase i = .parting m)
    (stranger : h.owner ≠ some (.started i)) :
  Custody w m h (phase.set i .outside) (made ++ [(i, .disown m)])
  := by
  apply c.pass rfl rfl id (by simp) (by simp)
  · simp
  · intro post grip
    rw [parting] at grip
    cases grip with
    | parting owned => exact absurd owned stranger
    | holding away => simp [Phase.About] at away

theorem release (c : Custody w m h phase made) (disowned : phase i = .disowned m) :
  Custody w m h.release (phase.set i .outside) (made ++ [(i, .release m)])
  := by
  obtain ⟨pre, post, split, quiet, taken, grip, others⟩ :=
    c.of_engaged (i := i) (.inr (.inr disowned))
  rw [disowned] at grip
  cases grip with
  | disowned unowned unmarked =>
    refine vacant rfl unowned unmarked ?_
    intro l
    by_cases here : l = i
    · subst here
      simp
    · apply engaged_set_of_ne here (others l here)
  | holding away => simp [Phase.About, Phase.Engaged] at away

end Custody

end LockDiscipline
