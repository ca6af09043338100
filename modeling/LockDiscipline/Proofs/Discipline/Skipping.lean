import LockDiscipline.Proofs.Discipline.Tidy

/-!
# Skipped observations

A program is a list of turns: calls, some of which are made while somebody else holds the
guard, so that they are not heard, and checks.  A skipped call leaves the byte of its handle
and the count as they were, and what is reported later may be a consequence of that.

A handle is in step if it was initialised since a call on it was skipped last.  `Abreast` is
what holds between a run and the run of the same program in which nothing is skipped: they
agree on the platform, on the bytes of handles that are in step, and on the surplus if every
call since the last check was heard and on a handle in step.  It is kept by every turn.
-/

namespace LockDiscipline

namespace Discipline

/-- What a program does next: a call, which may be skipped, or a check. -/
inductive Turn where
  | call (q : Request) (skipped : Bool)
  | check
  deriving DecidableEq, Repr

/-- The turn without the skip. -/
def Turn.heeded : Turn → Turn
  | call q _ => call q false
  | check => check

/-- Handle `m` is in step after turns: it was initialised since a call on it was skipped
last. -/
def InStep (m : Nat) (ts : List Turn) : Prop :=
  ∀ pre q post, ts = pre ++ .call q true :: post → q.handle = m →
    ∃ q', .call q' false ∈ post ∧ q'.handle = m ∧ q'.call = .init

/-- Since the last check every call was heard, and initialised its handle or was on one that
was in step. -/
def Faithful (ts : List Turn) : Prop :=
  ∀ pre t post, ts = pre ++ t :: post → .check ∉ t :: post →
    ∃ q, t = .call q false ∧ (q.call = .init ∨ InStep q.handle pre)

/-- A handle that is in step after a turn was initialised in that turn, or was in step before
and is not the one that the turn skipped. -/
theorem InStep.of_concat {m : Nat} {ts : List Turn} {t : Turn} (h : InStep m (ts ++ [t])) :
  (∃ q, t = .call q false ∧ q.handle = m ∧ q.call = .init)
    ∨ InStep m ts ∧ ∀ q, t = .call q true → q.handle ≠ m
  := by
  by_cases init : ∃ q, t = .call q false ∧ q.handle = m ∧ q.call = .init
  · exact .inl init
  · right
    constructor
    · intro pre q post split here
      obtain ⟨q', mem, handle, call⟩ := h pre q (post ++ [t]) (by simp [split]) here
      obtain earlier | last := List.mem_append.mp mem
      · use q', earlier, handle, call
      · obtain rfl := List.mem_singleton.mp last
        exact absurd ⟨q', rfl, handle, call⟩ init
    · rintro q rfl here
      obtain ⟨q', mem, -⟩ := h ts q [] rfl here
      cases mem

/-- After a turn that is no check, the turns were faithful before. -/
theorem Faithful.of_concat {ts : List Turn} {t : Turn} (h : Faithful (ts ++ [t])) :
  t = .check
    ∨ Faithful ts ∧ ∃ q, t = .call q false ∧ (q.call = .init ∨ InStep q.handle ts)
  := by
  by_cases check : t = .check
  · exact .inl check
  · right
    constructor
    · intro pre t' post split within
      apply h pre t' (post ++ [t])
      · simp [split]
      · simpa [Ne.symm check] using within
    · apply h ts t [] rfl
      simpa using Ne.symm check

end Discipline

namespace Standing

variable {s t : Standing} {ops : List Operation}

/-- Initialisation does the same on every byte, and every operation does the same on the same
byte. -/
theorem after_congr {op : Operation} (agree : op = .init ∨ s.byte = t.byte) :
  (s.after op).byte = (t.after op).byte
    ∧ (s.after op).live - s.live = (t.after op).live - t.live
    ∧ violations s.byte op = violations t.byte op
  := by
  have same : transition s.byte op = transition t.byte op := by
    obtain rfl | byte := agree
    · rfl
    · rw [byte]
  cases changes : transition s.byte op with
  | ok c =>
    rw [after_of_ok changes, after_of_ok (same.symm.trans changes), violations, violations, same]
    refine ⟨rfl, ?_, rfl⟩
    simp only
    omega
  | error v =>
    rw [after_of_error changes, after_of_error (same.symm.trans changes)]
    obtain rfl | byte := agree
    · cases changes
    · simp [violations, ← same, byte]

/-- Operations that begin with an initialisation do the same on every byte, and all others on
the same byte. -/
theorem run_congr (agree : ops.head? = some .init ∨ s.byte = t.byte) :
  (s.run ops).byte = (t.run ops).byte
    ∧ (s.run ops).live - s.live = (t.run ops).live - t.live
    ∧ s.faults ops = t.faults ops
  := by
  induction ops generalizing s t with
  | nil =>
    obtain none | byte := agree
    · cases none
    · simpa [run, faults] using byte
  | cons op ops ih =>
    have first : op = .init ∨ s.byte = t.byte := by simpa using agree
    obtain ⟨byte, live, found⟩ := after_congr first
    obtain ⟨byte', live', found'⟩ := ih (.inr byte)
    use byte'
    constructor
    · simp only [run, List.foldl_cons] at live' ⊢
      omega
    · rw [faults, faults, found, found']

end Standing

namespace Rig

open Discipline

variable {σ : Type} [Sink σ]

/-- A turn of a program whose calls go through context `x`, which monitor `i` watches. -/
def take (i x : Nat) (r : Rig σ) : Turn → Rig σ
  | .call q false => (r.call silent q.owner x q.handle q.call).2
  | .call q true => r.guarded i fun r => (r.call silent q.owner x q.handle q.call).2
  | .check => (r.check silent i).2

/-- Turns, one after another. -/
def takeAll (i x : Nat) (r : Rig σ) (ts : List Turn) : Rig σ := ts.foldl (take i x) r

/-- The violations that monitor `i` reports at a turn. -/
def reports (i x : Nat) (r : Rig σ) (t : Turn) : List Violation :=
  reported (r.monitor i).sink ((r.take i x t).transcript.drop r.transcript.length)

variable {i x m : Nat} {ts : List Turn} {ops : List Operation} {r r' : Rig σ}

/-- What is heard at a turn is reported at the turn. -/
theorem reports_of_hears {t : Turn} (h : Hears i m ops r (r.take i x t)) :
  r.reports i x t = (r.standing i m).faults ops
  := by
  obtain ⟨es, transcript, found⟩ := h.told
  rw [reports, transcript, List.drop_left, found]

/-- A call is heard, unless it is skipped. -/
theorem hears_take (watched : r.Watched i x) (q : Request) (skipped : Bool) :
  Hears i q.handle (if skipped then [] else (r.operation? x q).toList) r
    (r.take i x (.call q skipped))
  := by
  cases skipped with
  | false => apply hears_call watched q
  | true => apply hears_guarded_call watched q

/-- Whether a call is skipped does not matter to the platform. -/
theorem platform_take (r : Rig σ) (i x : Nat) (q : Request) (skipped : Bool) :
  r.platform.callDirectly silent q.owner (r.context x).primitive.base q.handle q.call
    = ((r.call silent q.owner x q.handle q.call).1,
      (r.take i x (.call q skipped)).platform)
  := by
  rw [platform_call]
  cases skipped with
  | false => rfl
  | true =>
    have held := platform_call (r.setMonitor i (r.monitor i).hold) q.owner x q.handle q.call
    have made := (platform_call r q.owner x q.handle q.call).symm.trans held
    exact congrArg (Prod.mk _) (congrArg Prod.snd made)

omit [Sink σ] in
theorem Watched.of_hears (watched : r.Watched i x) (h : Hears i m ops r r') :
  r'.Watched i x
  := by
  constructor
  · rw [h.context, watched.observers]
  · rw [h.held, watched.free]

/-- A check under a free guard reports the surplus, and then there is none. -/
theorem take_check (watched : r.Watched i x) :
  (r.take i x .check).platform = r.platform ∧ (r.take i x .check).Watched i x
    ∧ ((r.take i x .check).monitor i).sink = (r.monitor i).sink
    ∧ (r.take i x .check).handle = r.handle
    ∧ ((r.take i x .check).monitor i).tally.value.leaked = 0
    ∧ r.reports i x .check = (r.monitor i).tally.value.violations
  := by
  obtain ⟨sink, es, checked, found⟩ := tells_check watched.free
  rw [reports, take, checked]
  refine ⟨rfl, ⟨watched.observers, ?_⟩, ?_, rfl, ?_, ?_⟩
  · simpa [adjust, setMonitor, Monitor.adjust, Guard.put] using watched.free
  · simp [adjust, setMonitor, Monitor.adjust]
  · simp [adjust, setMonitor, Monitor.adjust, Guard.put]
  · simp only [adjust, setMonitor, List.drop_left, found]

/-! ### Two runs -/

/-- After turns, between a run in which calls were skipped and one in which none was. -/
structure Abreast (i x : Nat) (ts : List Turn) (r r' : Rig σ) : Prop where
  platform : r'.platform = r.platform
  watched : r.Watched i x
  watched' : r'.Watched i x
  sink : (r'.monitor i).sink = (r.monitor i).sink
  byte : ∀ m, InStep m ts → (r'.handle m).byte = (r.handle m).byte
  leaked : Faithful ts →
    (r'.monitor i).tally.value.leaked = (r.monitor i).tally.value.leaked

namespace Abreast

omit [Sink σ] in
theorem context (h : Abreast i x ts r r') :
  r'.context = r.context
  := by
  change r'.platform.context = r.platform.context
  rw [h.platform]

/-- A call amounts to the same operation in both runs. -/
theorem operation? (h : Abreast i x ts r r') (q : Request) :
  r'.operation? x q = r.operation? x q
  := by
  have made := r'.platform_call q.owner x q.handle q.call
  rw [h.platform, h.context, platform_call] at made
  rw [Rig.operation?, Rig.operation?, congrArg Prod.fst made]

/-- If the call initialises the handle, or the handle is in step, then the operation does the
same in both runs. -/
theorem run_congr (h : Abreast i x ts r r') {q : Request}
    (agree : q.call = .init ∨ InStep q.handle ts) :
  let ops := (r.operation? x q).toList
  let s := r.standing i q.handle
  let s' := r'.standing i q.handle
  (s'.run ops).byte = (s.run ops).byte
    ∧ (s'.run ops).live - s'.live = (s.run ops).live - s.live
    ∧ s'.faults ops = s.faults ops
  := by
  intro ops s s'
  apply Standing.run_congr
  obtain init | inStep := agree
  · left
    simp only [ops, operation?_of_init init]
    rfl
  · right
    apply h.byte q.handle inStep

theorem call (h : Abreast i x ts r r') (q : Request) (skipped : Bool) :
  Abreast i x (ts ++ [.call q skipped]) (r.take i x (.call q skipped))
    (r'.take i x (.call q false))
  := by
  have hears := hears_take h.watched q skipped
  have hears' := hears_take h.watched' q false
  rw [h.operation? q] at hears'
  constructor
  case platform =>
    have made := r.platform_take i x q skipped
    have made' := r'.platform_take i x q false
    rw [h.platform, h.context, made] at made'
    exact (congrArg Prod.snd made').symm
  case watched => apply h.watched.of_hears hears
  case watched' => apply h.watched'.of_hears hears'
  case sink => rw [hears.sink, hears'.sink, h.sink]
  case byte =>
    intro m inStep
    have byte := congrFun hears.byte m
    have byte' := congrFun hears'.byte m
    by_cases here : m = q.handle
    · subst here
      have agree : skipped = false ∧ (q.call = .init ∨ InStep q.handle ts) := by
        obtain ⟨q', turn, -, init⟩ | ⟨before, heard⟩ := inStep.of_concat
        · cases turn
          exact ⟨rfl, .inl init⟩
        · cases skipped with
          | false => exact ⟨rfl, .inr before⟩
          | true => exact absurd rfl (heard q rfl)
      obtain ⟨rfl, agree⟩ := agree
      obtain ⟨same, -⟩ := h.run_congr agree
      rw [Family.set_self] at byte byte'
      rw [byte, byte']
      apply same
    · obtain ⟨q', turn, there, -⟩ | ⟨before, -⟩ := inStep.of_concat
      · cases turn
        exact absurd there.symm here
      · rw [Family.set_of_ne _ _ here] at byte byte'
        rw [byte, byte', h.byte m before]
  case leaked =>
    intro faithful
    obtain check | ⟨before, q', turn, agree⟩ := faithful.of_concat
    · cases check
    · cases turn
      obtain ⟨-, live, -⟩ := h.run_congr agree
      have leaked := h.leaked before
      rw [hears.monitor, hears'.monitor]
      simp only [Tally.leaked, Monitor.adjust, Guard.put, standing] at leaked live ⊢
      simp only [Bool.false_eq_true, ↓reduceIte]
      omega

theorem check (h : Abreast i x ts r r') :
  Abreast i x (ts ++ [.check]) (r.take i x .check) (r'.take i x .check)
  := by
  obtain ⟨platform, watched, sink, handle, settled, -⟩ := take_check h.watched
  obtain ⟨platform', watched', sink', handle', settled', -⟩ := take_check h.watched'
  constructor
  case platform => rw [platform, platform', h.platform]
  case watched => apply watched
  case watched' => apply watched'
  case sink => rw [sink, sink', h.sink]
  case byte =>
    intro m inStep
    obtain ⟨q, turn, -⟩ | ⟨before, -⟩ := inStep.of_concat
    · cases turn
    · rw [handle, handle', h.byte m before]
  case leaked =>
    intro _
    rw [settled, settled']

/-- Whatever is skipped, the two runs stay abreast. -/
theorem takeAll (watched : r.Watched i x) (ts : List Turn) :
  Abreast i x ts (r.takeAll i x ts) (r.takeAll i x (ts.map Turn.heeded))
  := by
  induction ts using List.reverseRecOn with
  | nil =>
    constructor
    case platform => rfl
    case watched => apply watched
    case watched' => apply watched
    case sink => rfl
    case byte => exact fun _ _ => rfl
    case leaked => exact fun _ => rfl
  | append_singleton ts t ih =>
    rw [List.map_append, Rig.takeAll, Rig.takeAll, List.foldl_append, List.foldl_append]
    cases t with
    | call q skipped => apply ih.call
    | check => apply ih.check

/-- A heard call reports the same in both runs, if it initialises its handle, or its handle
is in step. -/
theorem reports_call (h : Abreast i x ts r r') {q : Request}
    (agree : q.call = .init ∨ InStep q.handle ts) :
  r.reports i x (.call q false) = r'.reports i x (.call q false)
  := by
  obtain ⟨-, -, found⟩ := h.run_congr agree
  rw [reports_of_hears (hears_take h.watched q false),
    reports_of_hears (hears_take h.watched' q false), h.operation? q]
  exact found.symm

/-- A check reports the same in both runs, if the turns since the last check were faithful. -/
theorem reports_check (h : Abreast i x ts r r') (faithful : Faithful ts) :
  r.reports i x .check = r'.reports i x .check
  := by
  obtain ⟨-, -, -, -, -, found⟩ := take_check h.watched
  obtain ⟨-, -, -, -, -, found'⟩ := take_check h.watched'
  rw [found, found', Tally.violations, Tally.violations, h.leaked faithful]

end Abreast

/-! ### Tidy runs -/

/-- The operations, with their handles, that are heard at a turn. -/
def heardAt (x : Nat) (r : Rig σ) : Turn → List (Nat × Operation)
  | .call q false => (r.operation? x q).toList.map (q.handle, ·)
  | _ => []

/-- The operations, with their handles, that are heard at turns. -/
def heard (i x : Nat) (r : Rig σ) : List Turn → List (Nat × Operation)
  | [] => []
  | t :: ts => r.heardAt x t ++ (r.take i x t).heard i x ts

omit [Sink σ] in
/-- The number of live handles changes as the handle does that is heard of. -/
theorem census_of_hears {ms : Finset Nat} (h : Hears i m ops r r') (mem : m ∈ ms) :
  r'.census ms + (alive (r.handle m).byte).toNat
    = r.census ms + (alive ((r.standing i m).run ops).byte).toNat
  := by
  have sum := Family.sum_set mem (fun n => (r.handle n).byte) ((r.standing i m).run ops).byte
    fun b => (alive b).toNat
  rw [← h.byte] at sum
  rw [census_eq_sum, census_eq_sum]
  apply sum

/-- Before the turns `ts`, what is heard of every handle leads from its state to its release,
and the surplus is the number of live handles, all of which are in `ms`. -/
structure Treading (i x : Nat) (ms : Finset Nat) (states : Family LockState) (r : Rig σ)
    (ts : List Turn) : Prop where
  watched : r.Watched i x
  inside : ∀ q skipped, .call q skipped ∈ ts → q.handle ∈ ms
  byte : ∀ m, (r.handle m).byte = (states m).byte
  treads : ∀ m, (word m (r.heard i x ts)).foldlM tread (states m) = some .freed
  balance : (r.monitor i).tally.value.leaked = r.census ms

namespace Treading

variable {ms : Finset Nat} {states : Family LockState}

/-- Once every handle is released there is no surplus. -/
theorem settled (h : Treading i x ms states r []) :
  (r.monitor i).tally.value.leaked = 0
  := by
  have freed (m : Nat) : states m = .freed := Option.some.inj (h.treads m)
  rw [h.balance, census_eq_sum]
  simp [h.byte, freed]

/-- A call reports nothing, and leads its handle to another state. -/
theorem take {q : Request} {skipped : Bool}
    (h : Treading i x ms states r (.call q skipped :: ts)) :
  r.reports i x (.call q skipped) = []
    ∧ ∃ s, Treading i x ms (states.set q.handle s) (r.take i x (.call q skipped)) ts
  := by
  have hears := hears_take h.watched q skipped
  have heardAt : r.heardAt x (.call q skipped)
      = (if skipped then [] else (r.operation? x q).toList).map (q.handle, ·) := by
    cases skipped with
    | true => rfl
    | false => rfl
  generalize (if skipped then [] else (r.operation? x q).toList) = ops at hears heardAt
  have handles (m : Nat) : word m (r.heard i x (.call q skipped :: ts))
      = (if m = q.handle then ops else [])
        ++ word m ((r.take i x (.call q skipped)).heard i x ts) := by
    rw [heard, heardAt, word_append, word_map]
  have here := h.treads q.handle
  rw [handles, if_pos rfl, List.foldlM_append] at here
  obtain ⟨s, first, rest⟩ := Option.bind_eq_some_iff.mp here
  have standing : r.standing i q.handle
      = ⟨(states q.handle).byte, (r.monitor i).tally.value.live⟩ := by
    rw [Rig.standing, h.byte]
  obtain ⟨silent, ends⟩ := Standing.run_of_tread (r.monitor i).tally.value.live first
  rw [← standing] at silent ends
  use (reports_of_hears hears).trans silent, s
  constructor
  case watched => apply h.watched.of_hears hears
  case inside => exact fun q' skipped' mem => h.inside q' skipped' (List.mem_cons_of_mem _ mem)
  case byte =>
    intro m
    have heard := congrFun hears.byte m
    by_cases there : m = q.handle
    · subst there
      simpa [ends] using heard
    · simpa [there, h.byte] using heard
  case treads =>
    intro m
    by_cases there : m = q.handle
    · subst there
      simpa using rest
    · simpa [handles, there] using h.treads m
  case balance =>
    have census := census_of_hears hears (h.inside q skipped List.mem_cons_self)
    have balance := h.balance
    rw [hears.monitor]
    simp only [ends, h.byte] at census
    simp only [Tally.leaked, Monitor.adjust, Guard.put, ends] at balance ⊢
    omega

/-- No turn reports anything, and at the end there is no surplus. -/
theorem takeAll (h : Treading i x ms states r ts) (unchecked : .check ∉ ts) :
  (∀ pre t post, ts = pre ++ t :: post → (r.takeAll i x pre).reports i x t = [])
    ∧ (r.takeAll i x ts).Watched i x
    ∧ ((r.takeAll i x ts).monitor i).tally.value.leaked = 0
  := by
  induction ts generalizing r states with
  | nil =>
    constructor
    · intro pre t post split
      simp at split
    · use h.watched
      apply h.settled
  | cons t ts ih =>
    cases t with
    | check => simp at unchecked
    | call q skipped =>
      obtain ⟨silent, s, after⟩ := h.take
      obtain ⟨quiet, watched, settled⟩ :=
        ih after fun mem => unchecked (List.mem_cons_of_mem _ mem)
      refine ⟨?_, watched, settled⟩
      intro pre t post split
      cases pre with
      | nil =>
        obtain ⟨rfl, rfl⟩ := List.cons.inj split
        apply silent
      | cons t' pre =>
        obtain ⟨rfl, rfl⟩ := List.cons.inj split
        apply quiet pre t post rfl

end Treading

/-- What is reported of a program some of whose calls are skipped, after any turns of it.  A
skipped call reports nothing.  A call that is heard reports what it reports when nothing is
skipped, if it initialises its handle or the handle is in step; and so does a check, if the
turns since the last check were faithful.  If what is heard of zeroed handles is tidy, no call
reports anything, nor does the check at the end. -/
theorem reports_of_skipping (watched : r.Watched i x) (before : List Turn) :
  let skipping := r.takeAll i x before
  let heeding := r.takeAll i x (before.map Turn.heeded)
  (∀ q, skipping.reports i x (.call q true) = [])
    ∧ (∀ q : Request, q.call = .init ∨ InStep q.handle before →
      skipping.reports i x (.call q false) = heeding.reports i x (.call q false))
    ∧ (Faithful before → skipping.reports i x .check = heeding.reports i x .check)
    ∧ ((∀ m, (r.handle m).byte = 0) → (r.monitor i).tally.value.leaked = 0 →
      .check ∉ before → (∀ m, word m (r.heard i x before) ∈ tidy.matches') →
      (∀ pre t post, before = pre ++ t :: post → (r.takeAll i x pre).reports i x t = [])
        ∧ skipping.reports i x .check = [])
  := by
  intro skipping heeding
  have abreast : Abreast i x before skipping heeding := Abreast.takeAll watched before
  refine ⟨?_, ?_, ?_, ?_⟩
  · intro q
    apply reports_of_hears (hears_take abreast.watched q true)
  · intro q agree
    apply abreast.reports_call agree
  · intro faithful
    apply abreast.reports_check faithful
  · intro zeroed balanced unchecked tidy
    let handles := (before.filterMap fun
      | .call q _ => some q.handle
      | .check => none).toFinset
    have inside (q : Request) (skipped : Bool) (mem : .call q skipped ∈ before) :
        q.handle ∈ handles := by
      apply List.mem_toFinset.mpr
      apply List.mem_filterMap.mpr
      use .call q skipped, mem
    have dead : r.census handles = 0 := by
      simp [census_eq_sum, zeroed, alive, LockState.byte]
    have treading : Treading i x handles (fun _ => .freed) r before := by
      constructor
      case watched => apply watched
      case inside => apply inside
      case byte => apply zeroed
      case treads => exact fun m => tread_of_tidy (tidy m)
      case balance =>
        rw [balanced, dead]
        rfl
    obtain ⟨quiet, watched', settled⟩ := treading.takeAll unchecked
    use quiet
    obtain ⟨-, -, -, -, -, found⟩ := take_check watched'
    rw [found, Tally.violations, if_pos settled]

/-- A call on handle 0, which may be skipped. -/
def turn (c : Call) (skipped : Bool) : Turn := .call ⟨.worker 0, 0, c⟩ skipped

/-- A handle that is used as intended, and of which a lock is skipped with its unlock. -/
def lapse : List Turn :=
  [turn .init false, turn .lock true, turn .unlock true, turn .lock false, turn .unlock false,
    turn .free false]

theorem heard_lapse :
  (workshop.enable 0 0).2.heard 0 0 lapse
    = [Operation.init, .lock true, .unlock, .free].map (0, ·)
  := by decide +kernel

theorem tidy_word_lapse (m : Nat) :
  word m ([Operation.init, .lock true, .unlock, .free].map (0, ·)) ∈ tidy.matches'
  := by
  rw [word_map]
  apply (RegularExpression.rmatch_iff_matches' _ _).mp
  split
  · decide +kernel
  · decide +kernel

/-- Nothing is reported of it. -/
theorem reports_of_skipping_lapse :
  let r := (workshop.enable 0 0).2
  r.Watched 0 0
    ∧ (∀ pre t post, lapse = pre ++ t :: post → (r.takeAll 0 0 pre).reports 0 0 t = [])
    ∧ (r.takeAll 0 0 lapse).reports 0 0 .check = []
  := by
  have watched : (workshop.enable 0 0).2.Watched 0 0 := watched_enable rfl rfl rfl
  obtain ⟨-, -, -, clean⟩ := reports_of_skipping watched lapse
  obtain ⟨quiet, settled⟩ := clean (fun _ => rfl) rfl (by decide) fun m =>
    heard_lapse ▸ tidy_word_lapse m
  exact ⟨watched, quiet, settled⟩

/-- Skipping invents violations.  If the initialisation of a handle is skipped that is used as
intended, the lock is reported, and if its release is skipped, a check reports a surplus;
neither is reported when nothing is skipped. -/
theorem reports_invented :
  let r := (workshop.enable 0 0).2
  let program := [turn .init false, turn .lock false, turn .unlock false, turn .free false]
  (∀ m, word m (r.heard 0 0 program) ∈ tidy.matches')
    ∧ (r.takeAll 0 0 [turn .init true]).reports 0 0 (turn .lock false) = [.lockWithoutInit]
    ∧ (r.takeAll 0 0 [turn .init false]).reports 0 0 (turn .lock false) = []
    ∧ (r.takeAll 0 0 [turn .init false, turn .free true]).reports 0 0 .check = [.missingFree 1]
    ∧ (r.takeAll 0 0 [turn .init false, turn .free false]).reports 0 0 .check = []
  := by
  intro r program
  constructor
  · intro m
    have heard : r.heard 0 0 program
        = [Operation.init, .lock true, .unlock, .free].map (0, ·) := by decide +kernel
    rw [heard]
    apply tidy_word_lapse
  · decide +kernel

end Rig

end LockDiscipline
