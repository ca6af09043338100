import LockDiscipline.Proofs.Conservation
import LockDiscipline.Proofs.Discipline.Detection

/-!
# A monitor is a family of automata

Every handle is an automaton of its own: its state is the byte, which an operation rewrites
(`byteAfter`) or leaves as it is when it is a violation.  `outcomes` says what each of a
sequence of operations on all handles comes to if every automaton runs from the byte that its
handle was created with, and knows of no operation but those on itself.

A monitor whose guard is free does no more than run these automata side by side, count, and
tell its sink of the violations in the order in which they come (`Rig.Refines`).  So
operations on different handles commute, and corruption is a matter of one handle and its
past.
-/

namespace LockDiscipline

open Discipline

/-! ### The automaton of one handle -/

/-- The byte of a handle after an operation. -/
def byteAfter (b : UInt8) (op : Operation) : UInt8 :=
  match transition b op with
  | .ok c => c.next.byte
  | .error _ => b

/-- The corrupted bytes are those above the byte of a locked handle. -/
theorem LockState.ofByte?_eq_none_iff {b : UInt8} :
  ofByte? b = none ↔ 2 < b
  := by
  rw [ofByte?, UInt8.lt_iff_toNat_lt]
  simp only [← UInt8.toNat_inj]
  grind

/-- A byte is corrupted after an operation exactly if it was before, and the operation did not
initialise the handle. -/
theorem byteAfter_eq_iff {b raw : UInt8} (corrupted : LockState.ofByte? raw = none)
    (op : Operation) :
  byteAfter b op = raw ↔ b = raw ∧ op ≠ .init
  := by
  rw [byteAfter]
  constructor
  · intro same
    cases changes : transition b op with
    | ok c =>
      rw [changes] at same
      rw [← same, LockState.ofByte?_byte] at corrupted
      cases corrupted
    | error v =>
      rw [changes] at same
      use same
      rintro rfl
      cases changes
  · rintro ⟨rfl, other⟩
    obtain init | illegal := transition_of_corrupted corrupted op
    · exact absurd init other
    · rw [illegal]

/-- A byte is corrupted after a list of operations exactly if it was before, and none of them
initialised the handle. -/
theorem foldl_byteAfter_eq_iff {b raw : UInt8} (corrupted : LockState.ofByte? raw = none)
    (ops : List Operation) :
  ops.foldl byteAfter b = raw ↔ b = raw ∧ .init ∉ ops
  := by
  induction ops generalizing b with
  | nil => simp
  | cons op ops ih =>
    rw [List.foldl_cons, ih, byteAfter_eq_iff corrupted, List.mem_cons, not_or, and_assoc,
      ne_comm]

/-- Only an operation that is no initialisation is reported as corrupted, and with the byte
that it found. -/
theorem corruptedState_mem_violations {b raw : UInt8} {op : Operation} :
  .corruptedState raw ∈ violations b op ↔ op ≠ .init ∧ b = raw ∧ LockState.ofByte? raw = none
  := by
  rw [violations]
  constructor
  · intro mem
    cases changes : transition b op with
    | ok c => simp [changes] at mem
    | error v =>
      obtain rfl : .corruptedState raw = v := by simpa [changes] using mem
      cases state : LockState.ofByte? b with
      | none =>
        obtain rfl | illegal := transition_of_corrupted state op
        · cases changes
        · cases changes.symm.trans illegal
          refine ⟨?_, rfl, state⟩
          rintro rfl
          cases changes
      | some s =>
        obtain rfl := LockState.ofByte?_eq_some_iff.mp state
        rw [transition_byte] at changes
        obtain _ | _ | _ | _ := op
        all_goals
          cases s <;> cases changes
  · rintro ⟨other, rfl, corrupted⟩
    obtain init | illegal := transition_of_corrupted corrupted op
    · exact absurd init other
    · simp [illegal]

/-! ### All automata side by side -/

/-- What each of a sequence of operations comes to, after the operations `past`, if handles
are automata that start from the bytes they were created with. -/
def outcomes (created : Nat → UInt8) (past : List (Nat × Operation)) :
    List (Nat × Operation) → List (Except Violation Change)
  | [] => []
  | (m, op) :: ops =>
    transition ((word m past).foldl byteAfter (created m)) op
      :: outcomes created (past ++ [(m, op)]) ops

/-- The change in the number of live handles by the legal ones among some outcomes. -/
def gain : List (Except Violation Change) → Int
  | [] => 0
  | .ok c :: xs => c.delta + gain xs
  | .error _ :: xs => gain xs

/-- The violation that an outcome is, if it is one. -/
def fault? : Except Violation Change → Option Violation
  | .ok _ => none
  | .error v => some v

section

variable {created : Nat → UInt8} {past past' ops ops' : List (Nat × Operation)}

theorem outcomes_append :
  outcomes created past (ops ++ ops')
    = outcomes created past ops ++ outcomes created (past ++ ops) ops'
  := by
  induction ops generalizing past with
  | nil => simp [outcomes]
  | cons a ops ih => simp [outcomes, ih]

/-- Of the past only the words of the handles matter. -/
theorem outcomes_congr (same : ∀ m, word m past = word m past') :
  outcomes created past ops = outcomes created past' ops
  := by
  induction ops generalizing past past' with
  | nil => rfl
  | cons a ops ih =>
    have later : ∀ m, word m (past ++ [a]) = word m (past' ++ [a]) := by
      intro m
      rw [word_append, word_append, same]
    rw [outcomes, outcomes, same, ih later]

/-- Operations on different handles can be swapped in every word. -/
theorem word_swap {a b : Nat × Operation} (apart : a.1 ≠ b.1) (n : Nat) :
  word n [a, b] = word n [b, a]
  := by
  by_cases here : a.1 = n
  · simp [word, here, Ne.symm (here ▸ apart)]
  · simp [word, here, List.filter_cons]

/-- Swapping operations on different handles swaps their outcomes. -/
theorem outcomes_swap {a b : Nat × Operation} (apart : a.1 ≠ b.1) :
  (outcomes created past (a :: b :: ops)).Perm (outcomes created past (b :: a :: ops))
  := by
  have first : word b.1 (past ++ [a]) = word b.1 past := word_concat_of_ne past a.2 apart.symm
  have second : word a.1 (past ++ [b]) = word a.1 past := word_concat_of_ne past b.2 apart
  have rest : outcomes created (past ++ [a] ++ [b]) ops
      = outcomes created (past ++ [b] ++ [a]) ops := by
    apply outcomes_congr
    intro n
    have swap := word_swap apart n
    simp only [List.append_assoc, List.cons_append, List.nil_append, word_append n past, swap]
  simp only [outcomes, first, second, rest]
  apply List.Perm.swap

theorem gain_append (xs ys : List (Except Violation Change)) :
  gain (xs ++ ys) = gain xs + gain ys
  := by
  induction xs with
  | nil => simp [gain]
  | cons x xs ih =>
    cases x with
    | ok c => simp [gain, ih, Int.add_assoc]
    | error v => simp [gain, ih]

/-- Outcomes gain the same in every order. -/
theorem gain_perm {xs ys : List (Except Violation Change)} (perm : xs.Perm ys) :
  gain xs = gain ys
  := by
  induction perm with
  | nil => rfl
  | cons x _ ih =>
    cases x with
    | ok c => rw [gain, gain, ih]
    | error v => rw [gain, gain, ih]
  | swap x y xs =>
    cases x with
    | ok c =>
      cases y with
      | ok c' => simp only [gain, Int.add_left_comm]
      | error v => rfl
    | error v => cases y <;> rfl
  | trans _ _ first second => rw [first, second]

theorem mem_word {m : Nat} {op : Operation} :
  op ∈ word m ops ↔ (m, op) ∈ ops
  := by simp [word]

end

/-! ### The monitor -/

/-- The state of a sink after it was told of violations. -/
def Sink.hear {σ : Type} [Sink σ] (x : σ) (vs : List Violation) : σ :=
  vs.foldl (fun x v => Sink.receive x (.record v)) x

namespace Rig

variable {σ : Type} [Sink σ]

/-- Monitor `i` is told of operations on handles, one after another. -/
def observeAll (i : Nat) (r : Rig σ) (ops : List (Nat × Operation)) : Rig σ :=
  ops.foldl (fun r a => r.observe silent i a.2 a.1) r

/-- From one rig to the next the operations `ops` were observed by monitor `i`, and did what
the automata of the handles do. -/
structure Refines (i : Nat) (ops : List (Nat × Operation)) (r r' : Rig σ) : Prop where
  handle : ∀ m, r'.handle m
    = { r.handle m with byte := (word m ops).foldl byteAfter (r.handle m).byte }
  monitor : r'.monitor = r.monitor.set i
    ((r.monitor i).adjust (·.count (gain (outcomes (fun m => (r.handle m).byte) [] ops))))
  sink : r'.sink = r.sink.set (r.monitor i).sink
    (Sink.hear (r.sink (r.monitor i).sink)
      ((outcomes (fun m => (r.handle m).byte) [] ops).filterMap fault?))
  told : ∃ es, r'.transcript = r.transcript ++ es
    ∧ callsOf (r.monitor i).sink es
      = ((outcomes (fun m => (r.handle m).byte) [] ops).filterMap fault?).map .record

namespace Refines

variable {i m : Nat} {op : Operation} {ops : List (Nat × Operation)} {r r' : Rig σ}

theorem refl (i : Nat) (r : Rig σ) :
  Refines i [] r r
  := by
  constructor
  case handle => exact fun _ => rfl
  case monitor => simp [outcomes, gain, Monitor.adjust, Guard.put, Tally.count]
  case sink => simp [outcomes, Sink.hear]
  case told =>
    use []
    simp [outcomes, callsOf]

theorem held (h : Refines i ops r r') :
  (r'.monitor i).tally.held = (r.monitor i).tally.held
  := by
  rw [h.monitor, Family.set_self]
  rfl

/-- An observation is a step of one automaton. -/
theorem observe (h : Refines i ops r r') (free : (r.monitor i).tally.held = false)
    (op : Operation) (m : Nat) :
  Refines i (ops ++ [(m, op)]) r (r'.observe silent i op m)
  := by
  have sink : (r'.monitor i).sink = (r.monitor i).sink := by
    rw [h.monitor, Family.set_self]
    rfl
  have byte : (r'.handle m).byte = (word m ops).foldl byteAfter (r.handle m).byte := by
    rw [h.handle]
  have handles (b : UInt8) (b_eq : b = byteAfter (r'.handle m).byte op) (n : Nat) :
      r'.handle.set m { r'.handle m with byte := b } n
        = { r.handle n with
          byte := (word n (ops ++ [(m, op)])).foldl byteAfter (r.handle n).byte } := by
    by_cases here : n = m
    · subst here
      rw [Family.set_self, word_concat_self, List.foldl_concat, ← byte, b_eq, h.handle]
    · rw [Family.set_of_ne _ _ here, word_concat_of_ne _ _ here, h.handle]
  have last : outcomes (fun m => (r.handle m).byte) [] (ops ++ [(m, op)])
      = outcomes (fun m => (r.handle m).byte) [] ops ++ [transition (r'.handle m).byte op] := by
    rw [outcomes_append, outcomes, outcomes, List.nil_append, byte]
  obtain ⟨es, transcript, calls⟩ := h.told
  cases changes : transition (r'.handle m).byte op with
  | ok c =>
    rw [changes] at last
    rw [observe_of_ok (h.held.trans free) changes]
    constructor
    case handle =>
      apply handles
      rw [byteAfter, changes]
    case monitor =>
      simp [adjust, setMonitor, setHandle, h.monitor, last, gain_append, gain, Monitor.adjust,
        Guard.put, Tally.count, Int.add_assoc]
    case sink =>
      simpa [adjust, setMonitor, setHandle, last, fault?, List.filterMap_cons] using h.sink
    case told =>
      use es, transcript
      simp [last, fault?, List.filterMap_cons, calls]
  | error v =>
    rw [changes] at last
    rw [observe_of_error (h.held.trans free) changes, report_eq]
    constructor
    case handle =>
      intro n
      rw [← handles (r'.handle m).byte (by rw [byteAfter, changes]) n, Family.set_get]
    case monitor =>
      rw [last, gain_append]
      simp [h.monitor, gain]
    case sink => simp [sink, h.sink, last, fault?, Sink.hear]
    case told =>
      use es ++ (r'.monitor i).reports op v
      constructor
      · simp [transcript]
      · have reports := callsOf_reports (r.monitor i).sink (r'.monitor i) op v
        rw [if_pos sink] at reports
        rw [last, callsOf, List.filterMap_append, ← callsOf, ← callsOf, calls, reports]
        simp [fault?]

/-- Observations are steps of the automata, however many there are. -/
theorem observeAll (free : (r.monitor i).tally.held = false) (ops : List (Nat × Operation)) :
  Refines i ops r (r.observeAll i ops)
  := by
  induction ops using List.reverseRecOn with
  | nil => apply refl
  | append_singleton ops a ih =>
    rw [Rig.observeAll, List.foldl_concat]
    apply ih.observe free

end Refines

/-- A monitor runs the automata of its handles side by side: after operations on any handles
every byte is that of an automaton, the count has changed by what the legal operations gain,
and the sink was told of the violations and of nothing else.  Operations on different handles
commute.  Corruption is reported at an operation exactly if the handle was created with the
corrupted byte and never initialised, and the operation is no initialisation; once a handle
was initialised its byte encodes a state. -/
theorem observeAll_automata {r : Rig σ} {i : Nat} (free : (r.monitor i).tally.held = false)
    (ops : List (Nat × Operation)) :
  let after := r.observeAll i ops
  let s := (r.monitor i).sink
  let created := fun m => (r.handle m).byte
  let found := (outcomes created [] ops).filterMap fault?
  (∀ m, (after.handle m).byte = (word m ops).foldl byteAfter (created m))
    ∧ (after.monitor i).tally.value.live
      = (r.monitor i).tally.value.live + gain (outcomes created [] ops)
    ∧ (∃ es, after.transcript = r.transcript ++ es ∧ callsOf s es = found.map .record)
    ∧ after.sink s = Sink.hear (r.sink s) found
    ∧ (∀ (a b : Nat × Operation) (post : List (Nat × Operation)), a.1 ≠ b.1 →
      let run := r.observeAll i (ops ++ a :: b :: post)
      let swapped := r.observeAll i (ops ++ b :: a :: post)
      run.handle = swapped.handle ∧ run.monitor = swapped.monitor)
    ∧ (∀ m op raw,
      (∃ es, (after.observe silent i op m).transcript = after.transcript ++ es
          ∧ .corruptedState raw ∈ reported s es)
        ↔ op ≠ .init ∧ created m = raw ∧ 2 < raw ∧ (m, .init) ∉ ops)
    ∧ ∀ m, (m, .init) ∈ ops → ∃ state, (after.handle m).byte = LockState.byte state
  := by
  intro after s created found
  have refines : Refines i ops r after := Refines.observeAll free ops
  have byte (m : Nat) : (after.handle m).byte = (word m ops).foldl byteAfter (created m) := by
    rw [refines.handle]
  have sink : (after.monitor i).sink = s := by
    rw [refines.monitor, Family.set_self]
    rfl
  refine ⟨byte, ?_, refines.told, ?_, ?_, ?_, ?_⟩
  · rw [refines.monitor, Family.set_self]
    rfl
  · rw [refines.sink, Family.set_self]
  · intro a b post apart run swapped
    have first : Refines i _ r run := Refines.observeAll free _
    have second : Refines i _ r swapped := Refines.observeAll free _
    constructor
    · funext n
      have swap := word_swap apart n
      have words : word n (ops ++ a :: b :: post) = word n (ops ++ b :: a :: post) := by
        change word n (ops ++ ([a, b] ++ post)) = word n (ops ++ ([b, a] ++ post))
        simp only [word_append, swap]
      rw [first.handle, second.handle, words]
    · rw [first.monitor, second.monitor, outcomes_append, outcomes_append, gain_append,
        gain_append, gain_perm (outcomes_swap apart)]
  · intro m op raw
    obtain ⟨_, observed⟩ := observe_eq (refines.held.trans free) op m
    have found : reported s ((after.monitor i).findings (after.handle m).byte op)
        = violations (after.handle m).byte op := by
      rw [← sink, Monitor.reported_findings]
    have corrupted : (∃ es, (after.observe silent i op m).transcript = after.transcript ++ es
          ∧ .corruptedState raw ∈ reported s es)
        ↔ .corruptedState raw ∈ violations (after.handle m).byte op := by
      simp only [observed, List.append_cancel_left_eq, exists_eq_left', found]
    rw [corrupted, corruptedState_mem_violations, byte, ← LockState.ofByte?_eq_none_iff,
      ← mem_word]
    constructor
    · rintro ⟨other, same, corrupted⟩
      obtain ⟨before, uninitialised⟩ := (foldl_byteAfter_eq_iff corrupted _).mp same
      exact ⟨other, before, corrupted, uninitialised⟩
    · rintro ⟨other, before, corrupted, uninitialised⟩
      exact ⟨other, (foldl_byteAfter_eq_iff corrupted _).mpr ⟨before, uninitialised⟩, corrupted⟩
  · intro m initialised
    cases state : LockState.ofByte? (after.handle m).byte with
    | none =>
      obtain ⟨-, uninitialised⟩ := (foldl_byteAfter_eq_iff state _).mp (byte m).symm
      exact absurd (mem_word.mpr initialised) uninitialised
    | some t =>
      use t
      apply LockState.ofByte?_eq_some_iff.mp state

/-- Operations on handles over memory that holds their numbers, of which number 7 is corrupted
until it is initialised. -/
def chores : List (Nat × Operation) :=
  [(7, .lock true), (1, .lock true), (7, .init), (0, .unlock), (7, .lock true), (2, .free)]

/-- The first operation finds the corrupted byte, and no operation finds it again. -/
theorem observeAll_automata_chores :
  (scrap.monitor 0).tally.held = false
    ∧ callsOf 0 ((scrap.observeAll 0 chores).transcript)
      = [.record (.corruptedState 7), .record .unlockWithoutInit, .record .freeWithoutUnlock]
    ∧ ((scrap.observeAll 0 chores).handle 7).byte = LockState.locked.byte
    ∧ ((scrap.observeAll 0 chores).monitor 0).tally.value.live = 1
    ∧ ∀ op raw, ¬ ∃ es, ((scrap.observeAll 0 chores).observe silent 0 op 7).transcript
        = (scrap.observeAll 0 chores).transcript ++ es ∧ .corruptedState raw ∈ reported 0 es
  := by
  have free : (scrap.monitor 0).tally.held = false := rfl
  obtain ⟨byte, live, ⟨es, transcript, calls⟩, -, -, corrupted, -⟩ :=
    observeAll_automata free chores
  refine ⟨free, ?_, ?_, ?_, ?_⟩
  · have fresh : scrap.transcript = [] := rfl
    rw [transcript, fresh, List.nil_append]
    exact calls.trans (by decide +kernel)
  · exact (byte 7).trans (by decide +kernel)
  · exact live.trans (by decide +kernel)
  · intro op raw again
    obtain ⟨-, -, -, uninitialised⟩ := (corrupted 7 op raw).mp again
    exact absurd uninitialised (by decide)

end Rig

end LockDiscipline
