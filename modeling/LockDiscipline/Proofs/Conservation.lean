import Mathlib.Algebra.BigOperators.Group.Finset.Piecewise
import LockDiscipline.Contest
import LockDiscipline.Proofs.Findings
import LockDiscipline.Proofs.Machine

/-!
# Conservation of live handles

What a monitor counts, together with the surpluses that it has reported, is the number of
handles that its operations have brought to life, whatever happens to the monitor: legal
and illegal operations, on handles over any memory, checks and baselines, each of them
possibly while somebody else holds the guard.  The only handles that are counted twice are
those that are initialised while they are live.

`Rig.Accounts` is the equation between the books of two rigs.  Every incident keeps the books
(`Rig.accounts_undergo`), hence so does every list of incidents (`Rig.accounts_undergoAll`).
-/

namespace LockDiscipline

/-- Whether a byte is that of a live handle, which was initialised and not freed since. -/
def alive (b : UInt8) : Bool := b = LockState.idle.byte || b = LockState.locked.byte

@[simp]
theorem alive_byte (s : LockState) :
  alive s.byte = !decide (s = .freed)
  := by cases s <;> rfl

/-- The surplus of live handles that a violation carries. -/
def Violation.surplus : Violation → Int
  | missingFree n => n
  | _ => 0

/-- The surplus of live handles that is reported with a list of violations. -/
def surplus : List Violation → Int
  | [] => 0
  | v :: vs => v.surplus + surplus vs

theorem surplus_append (vs vs' : List Violation) :
  surplus (vs ++ vs') = surplus vs + surplus vs'
  := by
  induction vs with
  | nil => simp [surplus]
  | cons v vs ih => rw [List.cons_append, surplus, surplus, ih, Int.add_assoc]

/-- No operation is a surplus. -/
theorem surplus_violations (b : UInt8) (op : Operation) :
  surplus (violations b op) = 0
  := by
  rw [violations]
  cases changes : transition b op with
  | ok c => rfl
  | error v =>
    cases state : LockState.ofByte? b with
    | none =>
      obtain rfl | illegal := transition_of_corrupted state op
      · cases changes
      · obtain rfl := Except.error.inj (changes.symm.trans illegal)
        rfl
    | some s =>
      obtain rfl := LockState.ofByte?_eq_some_iff.mp state
      rw [transition_byte] at changes
      obtain _ | _ | (_ | _) | _ := op
      all_goals
        cases s <;> cases changes <;> rfl

theorem Tally.surplus_violations (t : Tally) :
  surplus t.violations = t.leaked
  := by
  rw [violations]
  by_cases balanced : t.leaked = 0
  · simp [balanced, surplus]
  · simp [balanced, surplus, Violation.surplus]

/-- Whether an operation initialises a handle that is live. -/
def Standing.again (s : Standing) (op : Operation) : Bool := op = .init && alive s.byte

/-- An operation brings as many handles to life as it adds to the count, unless it
initialises one that is live. -/
theorem Standing.live_after (s : Standing) (op : Operation) :
  (s.after op).live + (alive s.byte).toNat
    = s.live + (alive (s.after op).byte).toNat + (s.again op).toNat
  := by
  cases changes : transition s.byte op with
  | ok c =>
    rw [after_of_ok changes]
    obtain ⟨rfl, rfl⟩ | ⟨rfl, idle, rfl⟩ | ⟨rfl, idle, rfl⟩ | ⟨rfl, idle, rfl⟩
      | ⟨rfl, locked, rfl⟩ := legal_cases changes
    · simp [again]
    · simp [again, idle]
    · simp [again, idle]
    · simp [again, idle]
    · simp [again, locked]
  | error v =>
    rw [after_of_error changes]
    have lawful : op ≠ .init := by
      rintro rfl
      cases changes
    simp [again, lawful]

/-! ### Incidents -/

/-- Something that happens to a monitor, perhaps while somebody else holds its guard. -/
inductive Incident where
  | operation (busy : Bool) (op : Operation) (m : Nat)
  | check (busy : Bool)
  | rebase
  deriving DecidableEq, Repr

/-- The handle that an incident is about. -/
def Incident.handle? : Incident → Option Nat
  | operation _ _ m => some m
  | _ => none

/-- Whether an incident ends the case: a check that takes place, or a new baseline. -/
def Incident.boundary : Incident → Bool
  | check busy => !busy
  | rebase => true
  | operation _ _ _ => false

namespace Rig

variable {σ : Type}

/-- The number of live handles among `ms`. -/
def census (ms : Finset Nat) (r : Rig σ) : Nat :=
  (ms.filter fun m => alive (r.handle m).byte).card

theorem census_eq_sum (ms : Finset Nat) (r : Rig σ) :
  r.census ms = ∑ m ∈ ms, (alive (r.handle m).byte).toNat
  := by
  rw [census, Finset.card_filter]
  apply Finset.sum_congr rfl
  intro m _
  cases alive (r.handle m).byte <;> rfl

/-- Whether an incident initialises a live handle. -/
def again (i : Nat) (r : Rig σ) : Incident → Bool
  | .operation false op m => (r.standing i m).again op
  | _ => false

variable [Sink σ]

/-- Monitor `i` undergoes an incident. -/
def undergo (i : Nat) (r : Rig σ) : Incident → Rig σ
  | .operation false op m => r.observe silent i op m
  | .operation true op m => r.guarded i (observe silent i op m)
  | .check false => (r.check silent i).2
  | .check true => r.guarded i fun r => (r.check silent i).2
  | .rebase => r.rebase i

/-- Monitor `i` undergoes one incident after another. -/
def undergoAll (i : Nat) (r : Rig σ) (es : List Incident) : Rig σ := es.foldl (undergo i) r

/-- The number of live handles that a list of incidents initialises. -/
def renewals (i : Nat) (r : Rig σ) : List Incident → Nat
  | [] => 0
  | e :: es => (r.again i e).toNat + (r.undergo i e).renewals i es

/-! ### The books -/

omit [Sink σ] in
/-- From one rig to the next monitor `i` has reported the violations `vs`, `n` live handles
were initialised, and what it counts and has reported changed as the number of live handles
did. -/
structure Accounts (i : Nat) (ms : Finset Nat) (vs : List Violation) (n : Nat)
    (r r' : Rig σ) : Prop where
  held : (r'.monitor i).tally.held = (r.monitor i).tally.held
  sink : (r'.monitor i).sink = (r.monitor i).sink
  told : ∃ es, r'.transcript = r.transcript ++ es ∧ reported (r.monitor i).sink es = vs
  balance : (r'.monitor i).tally.value.live + surplus vs + r.census ms
    = (r.monitor i).tally.value.live + r'.census ms + n

variable {i n n' : Nat} {ms : Finset Nat} {vs vs' : List Violation} {r r' r'' : Rig σ}

namespace Accounts

omit [Sink σ] in
theorem refl (i : Nat) (ms : Finset Nat) (r : Rig σ) :
  Accounts i ms [] 0 r r
  := by
  constructor
  case held => rfl
  case sink => rfl
  case told => exact ⟨[], (List.append_nil _).symm, rfl⟩
  case balance => simp [surplus]

omit [Sink σ] in
theorem trans (h : Accounts i ms vs n r r') (h' : Accounts i ms vs' n' r' r'') :
  Accounts i ms (vs ++ vs') (n + n') r r''
  := by
  constructor
  case held => rw [h'.held, h.held]
  case sink => rw [h'.sink, h.sink]
  case told =>
    obtain ⟨es, before, rfl⟩ := h.told
    obtain ⟨es', after, rfl⟩ := h'.told
    use es ++ es'
    rw [after, before, List.append_assoc, reported_append, h.sink]
    exact ⟨rfl, rfl⟩
  case balance =>
    have first := h.balance
    have second := h'.balance
    rw [surplus_append]
    push_cast
    omega

omit [Sink σ] in
/-- What is told of violations that match the change of the count keeps the books. -/
theorem of_tells {f : Tally → Tally} (h : Tells (r.monitor i).sink vs (r.adjust i f) r')
    (balance : (f (r.monitor i).tally.value).live + surplus vs = (r.monitor i).tally.value.live) :
  Accounts i ms vs 0 r r'
  := by
  obtain ⟨sink, es, rfl, rfl⟩ := h
  constructor
  case held => simp [Rig.adjust, setMonitor, Monitor.adjust, Guard.put]
  case sink => simp [Rig.adjust, setMonitor, Monitor.adjust]
  case told => exact ⟨es, rfl, rfl⟩
  case balance =>
    simp only [Rig.adjust, setMonitor, Family.set_self, Monitor.adjust, Guard.put, census,
      Int.natCast_zero, Int.add_zero]
    rw [balance]
    rfl

omit [Sink σ] in
/-- So does what tells nothing. -/
theorem of_silence (h : Tells (r.monitor i).sink [] r r') :
  Accounts i ms [] 0 r r'
  := by
  apply of_tells (f := id)
  · have same : r.adjust i id = r := by simp [Rig.adjust, Monitor.adjust, Guard.put, setMonitor]
    rw [same]
    apply h
  · simp [surplus]

end Accounts

/-- An observation keeps the books. -/
theorem accounts_observe (free : (r.monitor i).tally.held = false) (op : Operation) {m : Nat}
    (mem : m ∈ ms) :
  Accounts i ms (violations (r.handle m).byte op) ((r.standing i m).again op).toNat r
    (r.observe silent i op m)
  := by
  obtain ⟨sink, observed⟩ := observe_eq free op m
  rw [observed]
  constructor
  case held => simp [Monitor.adjust, Guard.put]
  case sink => simp [Monitor.adjust]
  case told => exact ⟨_, rfl, Monitor.reported_findings _ _ _⟩
  case balance =>
    have one := (r.standing i m).live_after op
    have all := Family.sum_set mem r.handle
      { r.handle m with byte := ((r.standing i m).after op).byte }
      fun h => (alive h.byte).toNat
    simp only [surplus_violations, census_eq_sum, Family.set_self, Monitor.adjust, Guard.put]
    simp only [standing] at one all ⊢
    omega

/-- Every incident keeps the books, and only a boundary reports a surplus or changes the
baseline. -/
theorem accounts_undergo (free : (r.monitor i).tally.held = false) (e : Incident)
    (inside : ∀ m ∈ e.handle?, m ∈ ms) :
  ∃ vs, Accounts i ms vs (r.again i e).toNat r (r.undergo i e)
    ∧ (e.boundary = false → surplus vs = 0
      ∧ ((r.undergo i e).monitor i).tally.value.baseline
        = (r.monitor i).tally.value.baseline)
  := by
  cases e with
  | operation busy op m =>
    cases busy with
    | false =>
      use violations (r.handle m).byte op, accounts_observe free op (inside m rfl)
      intro _
      use surplus_violations _ _
      obtain ⟨sink, observed⟩ := observe_eq free op m
      rw [undergo, observed]
      simp [Monitor.adjust, Guard.put]
    | true =>
      have quiet := tells_observe_of_busy free (r.monitor i).sink op m
      use [], Accounts.of_silence quiet
      intro _
      use rfl
      rw [undergo, quiet.monitor]
  | check busy =>
    cases busy with
    | false =>
      use (r.monitor i).tally.value.violations
      constructor
      · apply Accounts.of_tells (tells_check free)
        rw [Tally.surplus_violations]
        simp only [Tally.settle, Tally.leaked]
        omega
      · intro within
        cases within
    | true =>
      have quiet := tells_check_of_busy free (r.monitor i).sink
      use [], Accounts.of_silence quiet
      intro _
      use rfl
      rw [undergo, quiet.monitor]
  | rebase =>
    use []
    constructor
    · apply Accounts.of_tells (f := Tally.rebase)
      · apply Tells.log
      · simp [Tally.rebase, surplus]
    · intro within
      cases within

/-- After a boundary there is no surplus. -/
theorem balanced_undergo (free : (r.monitor i).tally.held = false) {e : Incident}
    (ends : e.boundary = true) :
  ((r.undergo i e).monitor i).tally.value.leaked = 0
  := by
  cases e with
  | operation busy op m => cases ends
  | check busy =>
    cases busy with
    | false =>
      rw [undergo, (tells_check free).monitor]
      simp [adjust, setMonitor, Monitor.adjust, Guard.put]
    | true => cases ends
  | rebase => simp [undergo, rebase, adjust, setMonitor, log, emit, Monitor.adjust, Guard.put]

/-- Every list of incidents keeps the books. -/
theorem accounts_undergoAll (free : (r.monitor i).tally.held = false) (es : List Incident)
    (inside : ∀ e ∈ es, ∀ m ∈ e.handle?, m ∈ ms) :
  ∃ vs, Accounts i ms vs (r.renewals i es) r (r.undergoAll i es)
    ∧ ((∀ e ∈ es, e.boundary = false) → surplus vs = 0
      ∧ ((r.undergoAll i es).monitor i).tally.value.baseline
        = (r.monitor i).tally.value.baseline)
  := by
  induction es generalizing r with
  | nil =>
    use [], Accounts.refl i ms r
    intro _
    exact ⟨rfl, rfl⟩
  | cons e es ih =>
    obtain ⟨vs, first, within⟩ := accounts_undergo free e (inside e List.mem_cons_self)
    obtain ⟨vs', rest, within'⟩ := ih (first.held.trans free) fun e' mem =>
      inside e' (List.mem_cons_of_mem e mem)
    use vs ++ vs', first.trans rest
    intro quiet
    obtain ⟨none, same⟩ := within (quiet e List.mem_cons_self)
    obtain ⟨none', same'⟩ := within' fun e' mem => quiet e' (List.mem_cons_of_mem e mem)
    constructor
    · rw [surplus_append, none, none', Int.add_zero]
    · rw [← same, ← same']
      rfl

/-- Between two boundaries the surplus changes as the number of live handles does. -/
theorem leaked_undergoAll (free : (r.monitor i).tally.held = false) (es : List Incident)
    (inside : ∀ e ∈ es, ∀ m ∈ e.handle?, m ∈ ms) (within : ∀ e ∈ es, e.boundary = false) :
  ((r.undergoAll i es).monitor i).tally.value.leaked + r.census ms
    = (r.monitor i).tally.value.leaked + (r.undergoAll i es).census ms + r.renewals i es
  := by
  obtain ⟨vs, books, quiet⟩ := accounts_undergoAll free es inside
  obtain ⟨none, baseline⟩ := quiet within
  have balance := books.balance
  simp only [Tally.leaked, none, baseline] at balance ⊢
  omega

/-- If there was no surplus, then after incidents that are no boundaries, and initialise no
live handle, a check reports by how much the number of live handles has changed, and nothing
if it has not. -/
theorem reported_check (free : (r.monitor i).tally.held = false)
    (settled : (r.monitor i).tally.value.leaked = 0) (es : List Incident)
    (inside : ∀ e ∈ es, ∀ m ∈ e.handle?, m ∈ ms) (within : ∀ e ∈ es, e.boundary = false)
    (unrenewed : r.renewals i es = 0) :
  let now := r.undergoAll i es
  let change : Int := now.census ms - r.census ms
  ∃ effects, (now.check silent i).2.transcript = now.transcript ++ effects
    ∧ reported (r.monitor i).sink effects = if change = 0 then [] else [.missingFree change]
  := by
  intro now change
  obtain ⟨vs, books, -⟩ := accounts_undergoAll free es inside
  obtain ⟨sink, effects, told, found⟩ := tells_check (books.held.trans free)
  use effects
  constructor
  · rw [told]
    rfl
  · have moved := leaked_undergoAll free es inside within
    have leaked : (now.monitor i).tally.value.leaked = change := by
      simp only [settled, unrenewed, change, now] at moved ⊢
      omega
    rw [← books.sink, found, Tally.violations, leaked]

/-- What a new monitor counts, together with the surpluses that its checks have reported, is
the number of handles that came to life since, live ones that were initialised counting once
more.  In particular a check reports by how much the number of live handles has changed since
the last boundary, if no live one was initialised meanwhile, and nothing if it has not
changed. -/
theorem live_add_surplus (created : (r.monitor i).tally = { value := {} }) (ms : Finset Nat)
    (es : List Incident) (inside : ∀ e ∈ es, ∀ m ∈ e.handle?, m ∈ ms) :
  let now := r.undergoAll i es
  let s := (r.monitor i).sink
  (∃ effects, now.transcript = r.transcript ++ effects
      ∧ (now.monitor i).tally.value.live + surplus (reported s effects)
        = now.census ms - r.census ms + r.renewals i es)
    ∧ ∀ before last stretch, es = before ++ last :: stretch → last.boundary = true →
      (∀ e ∈ stretch, e.boundary = false) →
      let since := r.undergoAll i (before ++ [last])
      since.renewals i stretch = 0 →
      let change : Int := now.census ms - since.census ms
      ∃ effects, (now.check silent i).2.transcript = now.transcript ++ effects
        ∧ reported s effects = if change = 0 then [] else [.missingFree change]
  := by
  intro now s
  have free : (r.monitor i).tally.held = false := by rw [created]
  constructor
  · obtain ⟨vs, books, -⟩ := accounts_undergoAll free es inside
    obtain ⟨effects, transcript, rfl⟩ := books.told
    use effects, transcript
    have balance := books.balance
    simp only [created] at balance
    simp only [now, s]
    omega
  · intro before last stretch split ends within since unrenewed
    have apart : now = since.undergoAll i stretch := by
      simp [now, since, undergoAll, split]
    have boundary : since = (r.undergoAll i before).undergo i last := by
      simp [since, undergoAll]
    obtain ⟨_, books, -⟩ := accounts_undergoAll free before fun e mem =>
      inside e (by simp [split, mem])
    obtain ⟨_, closing, -⟩ := accounts_undergo (books.held.trans free) last
      (inside last (by simp [split]))
    rw [← boundary] at closing
    have settled : (since.monitor i).tally.value.leaked = 0 := by
      rw [boundary]
      apply balanced_undergo (books.held.trans free) ends
    have same : s = (since.monitor i).sink := by
      rw [closing.sink, books.sink]
    rw [apart, same]
    apply reported_check (closing.held.trans (books.held.trans free)) settled stretch _ within
      unrenewed
    intro e mem
    apply inside e
    simp [split, mem]

/-- A rig whose handles are over memory that holds their numbers, and a monitor that may
skip. -/
def scrap : Rig CaseRecord :=
  { (⟨.hooks, 0, 0, false⟩ : Contest).rig with
    handle := fun m => .ofByte (.ofNat m)
    monitor := fun _ => { sink := 0, settings := { guardPolicy := .skipWhenBusy } } }

/-- A live handle is initialised again, another one unlocked, and an initialisation is
skipped; after a check the first is freed, and one over corrupted memory is not. -/
def mishaps : List Incident :=
  [.operation false .init 1, .operation false .unlock 2, .operation true .init 0, .check false,
    .operation false .free 1, .operation false .free 3]

/-- The first check has reported a surplus, and the second reports that one handle is
missing. -/
theorem live_add_surplus_mishaps :
  let now := scrap.undergoAll 0 mishaps
  (∃ effects, now.transcript = scrap.transcript ++ effects
      ∧ (now.monitor 0).tally.value.live + surplus (reported 0 effects) = 1 - 2 + 1)
    ∧ ∃ effects, (now.check silent 0).2.transcript = now.transcript ++ effects
      ∧ reported 0 effects = [.missingFree (-1)]
  := by
  obtain ⟨balance, closing⟩ := live_add_surplus (r := scrap) (i := 0) rfl {0, 1, 2, 3} mishaps
    (by decide)
  have checked := closing (mishaps.take 3) (.check false) (mishaps.drop 4) rfl rfl (by decide)
    (by decide +kernel)
  have before : scrap.census {0, 1, 2, 3} = 2 := by decide +kernel
  have middle :
      (scrap.undergoAll 0 (mishaps.take 3 ++ [.check false])).census {0, 1, 2, 3} = 2 := by
    decide +kernel
  have after : (scrap.undergoAll 0 mishaps).census {0, 1, 2, 3} = 1 := by decide +kernel
  have renewals : scrap.renewals 0 mishaps = 1 := by decide +kernel
  rw [before, after, renewals] at balance
  rw [middle, after] at checked
  exact ⟨balance, checked⟩

end Rig

end LockDiscipline
