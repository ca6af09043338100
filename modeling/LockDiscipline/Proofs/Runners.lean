import LockDiscipline.Proofs.Grafting

/-!
# Independent runners

Several runners work at the same time, each on a group of objects of its own.  A list of works
with the runners that do them is an interleaving of what each of them does (`share`).  If the
groups have no object in common (`Group.Apart`), every runner is answered as if it were alone, the
same becomes visible of its works, and its objects end up the same
(`Rig.performAll_independent`).  So the way in which works are interleaved does not matter.

One work of a group changes objects of the group only, and depends on these
(`Rig.perform_independent`); the rest is an induction on the interleaving, in which the works of
others leave a group as it is.
-/

namespace LockDiscipline

variable {σ ι α : Type}

/-! ### Shares -/

section

variable [DecidableEq ι]

/-- What belongs to `k`. -/
def share (k : ι) (l : List (ι × α)) : List α := (l.filter (·.1 = k)).map Prod.snd

theorem share_cons_self (k : ι) (a : α) (l : List (ι × α)) :
  share k ((k, a) :: l) = a :: share k l
  := by simp [share]

theorem share_cons_of_ne {k k' : ι} (other : k' ≠ k) (a : α) (l : List (ι × α)) :
  share k ((k', a) :: l) = share k l
  := by simp [share, other]

end

/-! ### Groups -/

namespace Group

/-- The groups have no object in common. -/
structure Apart (G H : Group) : Prop where
  handle : ∀ m, H.handle m → ¬ G.handle m
  script : ∀ n, H.script n → ¬ G.script n
  context : ∀ x, H.context x → ¬ G.context x
  monitor : ∀ i, H.monitor i → ¬ G.monitor i
  sink : ∀ s, H.sink s → ¬ G.sink s

/-- The objects that belong to no group. -/
def rest (G : ι → Group) : Group where
  handle m := ∀ k, ¬ (G k).handle m
  script n := ∀ k, ¬ (G k).script n
  context x := ∀ k, ¬ (G k).context x
  monitor i := ∀ k, ¬ (G k).monitor i
  sink s := ∀ k, ¬ (G k).sink s

theorem apart_rest (G : ι → Group) (k : ι) :
  (G k).Apart (rest G)
  := ⟨fun _ h => h k, fun _ h => h k, fun _ h => h k, fun _ h => h k, fun _ h => h k⟩

/-- The objects of the group are the same in two rigs. -/
structure Agrees (G : Group) (r r' : Rig σ) : Prop where
  handle : ∀ m, G.handle m → r'.handle m = r.handle m
  script : ∀ n, G.script n → r'.script n = r.script n
  context : ∀ x, G.context x → r'.context x = r.context x
  monitor : ∀ i, G.monitor i → r'.monitor i = r.monitor i
  sink : ∀ s, G.sink s → r'.sink s = r.sink s

namespace Agrees

variable {G : Group} {r r' r'' : Rig σ}

theorem refl (G : Group) (r : Rig σ) :
  G.Agrees r r
  := ⟨fun _ _ => rfl, fun _ _ => rfl, fun _ _ => rfl, fun _ _ => rfl, fun _ _ => rfl⟩

theorem trans (h : G.Agrees r r') (h' : G.Agrees r' r'') :
  G.Agrees r r''
  := by
  constructor
  case handle => exact fun m mem => (h'.handle m mem).trans (h.handle m mem)
  case script => exact fun n mem => (h'.script n mem).trans (h.script n mem)
  case context => exact fun x mem => (h'.context x mem).trans (h.context x mem)
  case monitor => exact fun i mem => (h'.monitor i mem).trans (h.monitor i mem)
  case sink => exact fun s mem => (h'.sink s mem).trans (h.sink s mem)

theorem symm (h : G.Agrees r r') :
  G.Agrees r' r
  := by
  constructor
  case handle => exact fun m mem => (h.handle m mem).symm
  case script => exact fun n mem => (h.script n mem).symm
  case context => exact fun x mem => (h.context x mem).symm
  case monitor => exact fun i mem => (h.monitor i mem).symm
  case sink => exact fun s mem => (h.sink s mem).symm

theorem closed (h : G.Agrees r r') (closed : G.Closed r) :
  G.Closed r'
  := closed.congr h.context h.monitor

/-- Rigs that agree are grafted. -/
theorem grafted (h : G.Agrees r r') (closed : G.Closed r) :
  Rig.Grafted G r' r.transcript r'.transcript r r'
  := by
  constructor
  case handle => exact fun m => ⟨h.handle m, fun _ => rfl⟩
  case script => exact fun n => ⟨h.script n, fun _ => rfl⟩
  case context => exact fun x => ⟨h.context x, fun _ => rfl⟩
  case monitor => exact fun i => ⟨h.monitor i, fun _ => rfl⟩
  case sink => exact fun s => ⟨h.sink s, fun _ => rfl⟩
  case closed => exact closed
  case visible => exact ⟨[], (List.append_nil _).symm, (List.append_nil _).symm⟩

end Agrees

end Group

namespace Rig

variable [Sink σ] {G : Group} {R : Responder σ}

/-- A work depends on the objects of its group, and changes no others. -/
theorem perform_independent (here : R.Local G) {r r' : Rig σ} (closed : G.Closed r)
    (agrees : G.Agrees r r') {w : Work} (covers : G.Covers w) :
  (w.perform R r').1 = (w.perform R r).1
    ∧ G.Agrees (w.perform R r).2 (w.perform R r').2
    ∧ (∃ new, (w.perform R r).2.transcript = r.transcript ++ new
      ∧ (w.perform R r').2.transcript = r'.transcript ++ new)
    ∧ G.Closed (w.perform R r).2
    ∧ ∀ {H : Group}, G.Apart H → H.Agrees r' (w.perform R r').2
  := by
  have linked := linked_grafted here r' r.transcript r'.transcript
  have candid : Candid G _ := candid_grafted r' r.transcript r'.transcript
  obtain ⟨done, answer⟩ := linked.perform (agrees.grafted closed) covers
  refine ⟨answer (.inr candid), ?_, done.visible, done.closed, ?_⟩
  · constructor
    case handle => exact fun m => (done.handle m).1
    case script => exact fun n => (done.script n).1
    case context => exact fun x => (done.context x).1
    case monitor => exact fun i => (done.monitor i).1
    case sink => exact fun s => (done.sink s).1
  · intro H apart
    constructor
    case handle => exact fun m mem => (done.handle m).2 (apart.handle m mem)
    case script => exact fun n mem => (done.script n).2 (apart.script n mem)
    case context => exact fun x mem => (done.context x).2 (apart.context x mem)
    case monitor => exact fun i mem => (done.monitor i).2 (apart.monitor i mem)
    case sink => exact fun s mem => (done.sink s).2 (apart.sink s mem)

end Rig

/-- What becomes visible by each of some works. -/
def Work.traces [Sink σ] (R : Responder σ) : Rig σ → List Work → List (List Effect)
  | _, [] => []
  | r, w :: ws =>
    (w.perform R r).2.transcript.drop r.transcript.length :: traces R (w.perform R r).2 ws

namespace Rig

variable [Sink σ] [DecidableEq ι] {G : ι → Group} {R : Responder σ}

section

variable (here : ∀ k, R.Local (G k)) (apart : ∀ k l, k ≠ l → (G k).Apart (G l))

include here apart

omit [DecidableEq ι] in
/-- A work leaves all groups closed: its own, and those that it does not change. -/
theorem closed_perform {r : Rig σ} (closed : ∀ l, (G l).Closed r) {l : ι} {w : Work}
    (covers : (G l).Covers w) (k : ι) :
  (G k).Closed (w.perform R r).2
  := by
  obtain ⟨-, -, -, kept, others⟩ :=
    perform_independent (here l) (closed l) (Group.Agrees.refl _ r) covers
  by_cases same : k = l
  · rw [same]
    exact kept
  · exact (others (apart l k (Ne.symm same))).closed (closed k)

/-- Works of others make no difference to runner `k`, whose objects are as they are in `r`. -/
theorem performAll_share {k : ι} {r r' : Rig σ} (closed : ∀ l, (G l).Closed r')
    (agrees : (G k).Agrees r r') {ws : List (ι × Work)} (covers : ∀ p ∈ ws, (G p.1).Covers p.2) :
  share k ((ws.map Prod.fst).zip (Work.performAll R r' (ws.map Prod.snd)).1)
      = (Work.performAll R r (share k ws)).1
    ∧ share k ((ws.map Prod.fst).zip (Work.traces R r' (ws.map Prod.snd)))
      = Work.traces R r (share k ws)
    ∧ (G k).Agrees (Work.performAll R r (share k ws)).2
      (Work.performAll R r' (ws.map Prod.snd)).2
  := by
  induction ws generalizing r r' with
  | nil => exact ⟨rfl, rfl, agrees⟩
  | cons p ws ih =>
    obtain ⟨l, w⟩ := p
    have own : (G l).Covers w := covers _ List.mem_cons_self
    have later : ∀ p ∈ ws, (G p.1).Covers p.2 := fun p mem => covers p (List.mem_cons_of_mem _ mem)
    have closed' := closed_perform here apart closed own
    by_cases mine : l = k
    · subst mine
      obtain ⟨answer, agrees', ⟨new, grown, grown'⟩, -, -⟩ :=
        perform_independent (here l) (agrees.symm.closed (closed l)) agrees own
      obtain ⟨answers, traces, last⟩ := ih closed' agrees' later
      simp only [List.map_cons, Work.performAll_cons, Work.traces, List.zip_cons_cons,
        share_cons_self, answer, grown, grown', List.drop_left]
      exact ⟨congrArg _ answers, congrArg _ traces, last⟩
    · obtain ⟨-, -, -, -, others⟩ :=
        perform_independent (here l) (closed l) (Group.Agrees.refl _ r') own
      obtain ⟨answers, traces, last⟩ := ih closed' (agrees.trans (others (apart l k mine))) later
      simp only [List.map_cons, Work.performAll_cons, Work.traces, List.zip_cons_cons,
        share_cons_of_ne mine]
      exact ⟨answers, traces, last⟩

omit [DecidableEq ι] in
/-- Objects that belong to no runner do not change. -/
theorem performAll_rest {r : Rig σ} (closed : ∀ l, (G l).Closed r) {ws : List (ι × Work)}
    (covers : ∀ p ∈ ws, (G p.1).Covers p.2) :
  (Group.rest G).Agrees r (Work.performAll R r (ws.map Prod.snd)).2
  := by
  induction ws generalizing r with
  | nil => exact .refl _ r
  | cons p ws ih =>
    have own : (G p.1).Covers p.2 := covers p List.mem_cons_self
    obtain ⟨-, -, -, -, others⟩ :=
      perform_independent (here p.1) (closed p.1) (Group.Agrees.refl _ r) own
    apply (others (Group.apart_rest G p.1)).trans
    exact ih (closed_perform here apart closed own)
      fun q mem => covers q (List.mem_cons_of_mem p mem)

/-- Runners whose groups have no object in common do not interfere.  However their works are
interleaved, each of them is answered as if it were alone, the same becomes visible of its works,
and its objects end up the same; objects that belong to nobody stay as they are.  So any two
interleavings of the same works come to the same objects. -/
theorem performAll_independent {r : Rig σ} (closed : ∀ k, (G k).Closed r) :
  (∀ ws : List (ι × Work), (∀ p ∈ ws, (G p.1).Covers p.2) →
      let all := Work.performAll R r (ws.map Prod.snd)
      (∀ k, let own := Work.performAll R r (share k ws)
          share k ((ws.map Prod.fst).zip all.1) = own.1
            ∧ share k ((ws.map Prod.fst).zip (Work.traces R r (ws.map Prod.snd)))
              = Work.traces R r (share k ws)
            ∧ (G k).Agrees own.2 all.2)
        ∧ (Group.rest G).Agrees r all.2)
    ∧ ∀ ws ws' : List (ι × Work), (∀ p ∈ ws, (G p.1).Covers p.2) →
      (∀ p ∈ ws', (G p.1).Covers p.2) → (∀ k, share k ws' = share k ws) →
      let last := (Work.performAll R r (ws.map Prod.snd)).2
      let last' := (Work.performAll R r (ws'.map Prod.snd)).2
      last'.handle = last.handle ∧ last'.script = last.script ∧ last'.context = last.context
        ∧ last'.monitor = last.monitor ∧ last'.sink = last.sink
  := by
  have run (ws : List (ι × Work)) (covers : ∀ p ∈ ws, (G p.1).Covers p.2) (k : ι) :=
    performAll_share here apart (k := k) closed (.refl _ r) covers
  constructor
  · exact fun ws covers => ⟨run ws covers, performAll_rest here apart closed covers⟩
  · intro ws ws' covers covers' same last last'
    have own (k : ι) : (G k).Agrees last last' := by
      obtain ⟨-, -, agrees⟩ := run ws covers k
      obtain ⟨-, -, agrees'⟩ := run ws' covers' k
      rw [same] at agrees'
      exact agrees.symm.trans agrees'
    have rest : (Group.rest G).Agrees last last' :=
      (performAll_rest here apart closed covers).symm.trans
        (performAll_rest here apart closed covers')
    refine ⟨funext fun m => ?_, funext fun n => ?_, funext fun x => ?_, funext fun i => ?_,
      funext fun s => ?_⟩
    case refine_1 =>
      by_cases owned : ∃ k, (G k).handle m
      · exact owned.elim fun k mem => (own k).handle m mem
      · exact rest.handle m (not_exists.mp owned)
    case refine_2 =>
      by_cases owned : ∃ k, (G k).script n
      · exact owned.elim fun k mem => (own k).script n mem
      · exact rest.script n (not_exists.mp owned)
    case refine_3 =>
      by_cases owned : ∃ k, (G k).context x
      · exact owned.elim fun k mem => (own k).context x mem
      · exact rest.context x (not_exists.mp owned)
    case refine_4 =>
      by_cases owned : ∃ k, (G k).monitor i
      · exact owned.elim fun k mem => (own k).monitor i mem
      · exact rest.monitor i (not_exists.mp owned)
    case refine_5 =>
      by_cases owned : ∃ k, (G k).sink s
      · exact owned.elim fun k mem => (own k).sink s mem
      · exact rest.sink s (not_exists.mp owned)

end

/-- The objects of odd number, or those of even number. -/
def half (odd : Bool) : Group where
  handle m := m % 2 = odd.toNat
  script n := n % 2 = odd.toNat
  context x := x % 2 = odd.toNat
  monitor i := i % 2 = odd.toNat
  sink s := s % 2 = odd.toNat

/-- A rig with native and scripted contexts, and monitors with sinks of their own that come to see
calls in different ways. -/
def desks : Rig CaseRecord where
  handle _ := {}
  script _ := {}
  context x := { primitive := .bare x (if x < 2 then .native else .scripted) }
  monitor i := { sink := i, settings := { strategy := if i = 0 then .substitute else .hooks } }
  sink _ := .fresh
  slot _ := {}
  primitives := []
  started := 0
  transcript := []

/-- Probes that lock a handle and check a case when a violation is recorded. -/
def retort : Family Probe := fun s k =>
  if k = .record then [.call (.worker 0) s (s + 2) .lock, .check (s + 2)] else []

/-- A test case each, which run at the same time. -/
def shifts : List (Bool × Work) :=
  [(true, .enable 1 1), (false, .enable 0 0), (false, .openCase 0), (true, .openCase 1),
    (true, .call (.worker 0) 1 1 .init), (false, .call (.worker 0) 0 0 .lock),
    (true, .call (.worker 0) 1 1 .lock), (false, .script 2 (.pushLock (.refused .lockFailure))),
    (true, .closeCase 1 none), (false, .call (.worker 0) 2 4 .lock), (false, .closeCase 0 none),
    (false, .disable 0 0), (true, .check 1)]

/-- The same works, those of one runner after those of the other. -/
def queue : List (Bool × Work) := shifts.filter (·.1 = true) ++ shifts.filter (·.1 = false)

/-- One runner is answered as if it were alone, the other has its objects as if it were alone, and
the sinks end up the same if one goes after the other, though the transcript is another. -/
theorem performAll_independent_shifts :
  let R : Responder CaseRecord := probed retort 2
  share true ((shifts.map Prod.fst).zip (Work.performAll R desks (shifts.map Prod.snd)).1)
      = (Work.performAll R desks (share true shifts)).1
    ∧ (half false).Agrees (Work.performAll R desks (share false shifts)).2
      (Work.performAll R desks (shifts.map Prod.snd)).2
    ∧ ((Work.performAll R desks (shifts.map Prod.snd)).2.sink 0).verdict = .failed
    ∧ (Work.performAll R desks (queue.map Prod.snd)).2.sink
      = (Work.performAll R desks (shifts.map Prod.snd)).2.sink
    ∧ (Work.performAll R desks (queue.map Prod.snd)).2.transcript
      ≠ (Work.performAll R desks (shifts.map Prod.snd)).2.transcript
  := by
  intro R
  have here (odd : Bool) : R.Local (half odd) := by
    apply local_probed
    intro s mem k t among
    have far : (s + 2) % 2 = odd.toNat := (Nat.add_mod_right s 2).trans mem
    rw [retort] at among
    split at among
    · obtain rfl | rfl := List.mem_pair.mp among
      · exact ⟨mem, far⟩
      · exact far
    · cases among
  have apart (k l : Bool) (other : k ≠ l) : (half k).Apart (half l) := by
    have distinct (n : Nat) (mem : n % 2 = l.toNat) : ¬ n % 2 = k.toNat :=
      fun own => other (by cases k <;> cases l <;> simp_all)
    exact ⟨distinct, distinct, distinct, distinct, distinct⟩
  have closed (k : Bool) : (half k).Closed desks :=
    ⟨fun _ mem => ⟨fun _ => mem, nofun⟩, fun _ mem => ⟨mem, nofun⟩⟩
  have covers : ∀ p ∈ shifts, (half p.1).Covers p.2 := by
    simp [shifts, half, Group.Covers]
  have covers' : ∀ p ∈ queue, (half p.1).Covers p.2 := by
    intro p mem
    apply covers
    simp only [queue, List.mem_append, List.mem_filter] at mem
    exact mem.elim And.left And.left
  obtain ⟨alone, same⟩ := performAll_independent here apart closed
  obtain ⟨each, -⟩ := alone shifts covers
  obtain ⟨answers, -, -⟩ := each true
  obtain ⟨-, -, agrees⟩ := each false
  obtain ⟨-, -, -, -, sinks⟩ := same shifts queue covers covers' (by decide +kernel)
  exact ⟨answers, agrees, by decide +kernel, sinks, by decide +kernel⟩

end Rig

end LockDiscipline
