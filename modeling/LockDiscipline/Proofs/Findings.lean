import LockDiscipline.Proofs.CaseVerdict

/-!
# What a monitor finds

An observation under a free guard takes the byte of the handle and the number of live handles
from one standing to the next (`Rig.observe_eq`), and a check settles the tally
(`Rig.tells_check`).  Both hold whatever the sink is like.  What is found becomes visible as
violations that the sink is told of, in the order in which they are `reported`: the one that
the operation is, if it is illegal, and the surplus of live handles, if there is one.
-/

namespace LockDiscipline

/-- The violations that sink `s` is told of among a list of effects. -/
def reported (s : Nat) (es : List Effect) : List Violation :=
  (callsOf s es).filterMap SinkCall.recorded?

theorem reported_append (s : Nat) (es es' : List Effect) :
  reported s (es ++ es') = reported s es ++ reported s es'
  := by simp [reported, callsOf]

theorem reported_told (s : Nat) (c : SinkCall) :
  reported s [.told s c] = c.recorded?.toList
  := by
  cases c with
  | _ => simp [reported, callsOf, SinkCall.recorded?]

/-- On a corrupted byte only initialisation is legal. -/
theorem transition_of_corrupted {b : UInt8} (corrupted : LockState.ofByte? b = none)
    (op : Operation) :
  op = .init ∨ transition b op = .error (.corruptedState b)
  := by
  cases op with
  | init => exact .inl rfl
  | _ => simp [transition, corrupted]

/-- The legal operations. -/
theorem legal_cases {b : UInt8} {op : Operation} {c : Change}
    (legal : transition b op = .ok c) :
  (op = .init ∧ c = ⟨.idle, 1⟩)
    ∨ (op = .free ∧ b = LockState.idle.byte ∧ c = ⟨.freed, -1⟩)
    ∨ (op = .lock true ∧ b = LockState.idle.byte ∧ c = ⟨.locked, 0⟩)
    ∨ (op = .lock false ∧ b = LockState.idle.byte ∧ c = ⟨.idle, 0⟩)
    ∨ (op = .unlock ∧ b = LockState.locked.byte ∧ c = ⟨.idle, 0⟩)
  := by
  cases state : LockState.ofByte? b with
  | some s =>
    obtain rfl := LockState.ofByte?_eq_some_iff.mp state
    rw [transition_byte] at legal
    obtain _ | _ | (_ | _) | _ := op
    all_goals
      cases s <;> cases legal <;> simp
  | none =>
    obtain rfl | illegal := transition_of_corrupted state op
    · cases legal
      simp
    · cases illegal.symm.trans legal

namespace Standing

variable {s : Standing} {op : Operation}

theorem after_of_ok {c : Change} (legal : transition s.byte op = .ok c) :
  s.after op = ⟨c.next.byte, s.live + c.delta⟩
  := by simp [after, attempt, legal, Except.map]

theorem after_of_error {v : Violation} (illegal : transition s.byte op = .error v) :
  s.after op = s
  := by simp [after, attempt, illegal, Except.map]

end Standing

/-- The violation that an operation is on a handle with byte `b`, if it is illegal. -/
def violations (b : UInt8) (op : Operation) : List Violation :=
  match transition b op with
  | .ok _ => []
  | .error v => [v]

/-- The surplus of live handles, if there is one. -/
def Tally.violations (t : Tally) : List Violation :=
  if t.leaked = 0 then [] else [.missingFree t.leaked]

namespace Monitor

theorem reported_echoes (s : Nat) (x : Monitor) (text : String) :
  reported s (x.echoes text) = []
  := by
  rw [echoes]
  split
  · rfl
  · rfl

/-- A guard that is held is busy, or makes its callers wait. -/
theorem attempt_hold (x : Monitor) :
  x.hold.attempt = .busy ∨ x.hold.attempt = .waiting
  := by
  cases policy : x.settings.guardPolicy with
  | block =>
    right
    simp [attempt, Guard.attempt, hold, Guard.hold, policy]
  | skipWhenBusy =>
    left
    simp [attempt, Guard.attempt, hold, Guard.hold, policy]

/-- What becomes visible when a monitor observes an operation on a handle with byte `b`. -/
def findings (x : Monitor) (b : UInt8) (op : Operation) : List Effect :=
  (violations b op).flatMap (x.reports op)

theorem reported_findings (x : Monitor) (b : UInt8) (op : Operation) :
  reported x.sink (x.findings b op) = violations b op
  := by
  rw [findings, violations]
  cases transition b op with
  | ok c => rfl
  | error v => simp [reported, callsOf_reports, SinkCall.recorded?]

theorem reported_surplus (x : Monitor) :
  reported x.sink x.surplus = x.tally.value.violations
  := by
  rw [surplus, Tally.violations]
  by_cases balanced : x.tally.value.leaked = 0
  · simp only [balanced, ↓reduceIte]
    rfl
  · have logged : reported x.sink [.logged (.leaked x.tally.value.leaked)] = [] := rfl
    simp only [balanced, ↓reduceIte]
    rw [← List.singleton_append, reported_append, reported_append, logged, reported_echoes,
      reported_told]
    rfl

/-- All that a check reports is the surplus. -/
theorem reported_parley {σ : Type} [Sink σ] (x : Monitor) (a : σ) :
  reported x.sink (x.parley a) = x.tally.value.violations
  := by
  have pleads (a : σ) : reported x.sink ((Sink.plea a).map (.told x.sink)) = [] := by
    rw [Sink.plea]
    split
    · split
      · simp [reported, callsOf, SinkCall.recorded?]
      · simp [reported, callsOf, SinkCall.recorded?]
    · simp [reported, callsOf, SinkCall.recorded?]
  rw [parley, reported_append, reported_append, pleads, reported_surplus, reported_told]
  simp [SinkCall.recorded?]

end Monitor

namespace Rig

variable {σ : Type}

/-- The byte of handle `m` together with the number of live handles of monitor `i`. -/
def standing (i m : Nat) (r : Rig σ) : Standing :=
  ⟨(r.handle m).byte, (r.monitor i).tally.value.live⟩

/-- From one rig to the next only sinks and the transcript have changed, and sink `s` was
told of the violations `vs`. -/
def Tells (s : Nat) (vs : List Violation) (r r' : Rig σ) : Prop :=
  ∃ sink es, r' = { r with sink := sink, transcript := r.transcript ++ es }
    ∧ reported s es = vs

namespace Tells

variable {r r' : Rig σ} {s : Nat} {vs : List Violation}

theorem refl (s : Nat) (r : Rig σ) :
  Tells s [] r r
  := by
  use r.sink, []
  simp [reported, callsOf]

theorem log (s : Nat) (e : Event) (r : Rig σ) :
  Tells s [] r (r.log e)
  := ⟨r.sink, [.logged e], rfl, rfl⟩

theorem monitor (h : Tells s vs r r') :
  r'.monitor = r.monitor
  := by
  obtain ⟨sink, es, rfl, -⟩ := h
  rfl

end Tells

variable [Sink σ] {r : Rig σ} {i : Nat}

/-- An observation changes the byte of the handle and the number of live handles as the
operation does, and reports a violation. -/
theorem observe_eq (free : (r.monitor i).tally.held = false) (op : Operation) (m : Nat) :
  ∃ sink, r.observe silent i op m =
    { r with
      handle := r.handle.set m
        { r.handle m with byte := ((r.standing i m).after op).byte }
      monitor := r.monitor.set i
        ((r.monitor i).adjust fun t => { t with live := ((r.standing i m).after op).live })
      sink := sink
      transcript := r.transcript ++ (r.monitor i).findings (r.handle m).byte op }
  := by
  cases changes : transition (r.handle m).byte op with
  | ok c =>
    have after : (r.standing i m).after op = _ := Standing.after_of_ok changes
    rw [observe_of_ok free changes, after]
    use r.sink
    simp [standing, changes, Monitor.findings, violations, setHandle, adjust, setMonitor,
      Handle.mark, Tally.count, Monitor.adjust]
  | error v =>
    have after : (r.standing i m).after op = _ := Standing.after_of_error changes
    rw [observe_of_error free changes, report_eq, after]
    use r.sink.set (r.monitor i).sink
      (Sink.receive (r.sink (r.monitor i).sink) (.record v))
    simp [standing, changes, Monitor.findings, violations, Monitor.adjust, Guard.put]

/-! ### Checks -/

/-- A check settles the tally, and reports the surplus of live handles and nothing else. -/
theorem tells_check (free : (r.monitor i).tally.held = false) :
  Tells (r.monitor i).sink (r.monitor i).tally.value.violations (r.adjust i Tally.settle)
    (r.check silent i).2
  := by
  rw [check_of_free free, closeCase_eq_parley]
  exact ⟨_, _, rfl, Monitor.reported_parley (r.monitor i) _⟩

/-! ### A busy guard -/

omit [Sink σ] in
/-- What leaves at most an event in the log while somebody else holds the guard tells
nothing. -/
theorem tells_guarded (free : (r.monitor i).tally.held = false) (s : Nat)
    {f : Rig σ → Rig σ} (idle : ∀ r', (r'.monitor i).attempt = .busy
      ∨ (r'.monitor i).attempt = .waiting → f r' = r' ∨ ∃ e, f r' = r'.log e) :
  Tells s [] r (r.guarded i f)
  := by
  have held : (r.setMonitor i (r.monitor i).hold).monitor i = (r.monitor i).hold :=
    Family.set_self _ _ _
  have returned := Monitor.release_hold free
  obtain waits | ⟨e, skipped⟩ := idle _ (held ▸ Monitor.attempt_hold (r.monitor i))
  · have same : r.guarded i f = r := by
      rw [guarded, waits, held, returned]
      simp [setMonitor]
    rw [same]
    apply Tells.refl
  · have logged : r.guarded i f = r.log e := by
      rw [guarded, skipped, log, emit, held, returned]
      simp [setMonitor, log, emit]
    rw [logged]
    apply Tells.log

/-- An observation under a busy guard tells nothing. -/
theorem tells_observe_of_busy (free : (r.monitor i).tally.held = false) (s : Nat)
    (op : Operation) (m : Nat) :
  Tells s [] r (r.guarded i (observe silent i op m))
  := by
  apply tells_guarded free
  intro r' attempt
  obtain busy | waiting := attempt
  · right
    use .observationSkipped op
    rw [observe, busy]
  · left
    rw [observe, waiting]

/-- Nor does a check. -/
theorem tells_check_of_busy (free : (r.monitor i).tally.held = false) (s : Nat) :
  Tells s [] r (r.guarded i fun r => (r.check silent i).2)
  := by
  apply tells_guarded free
  intro r' attempt
  obtain busy | waiting := attempt
  · right
    use .checkSkipped
    rw [check, busy]
  · left
    rw [check, waiting]

end Rig

end LockDiscipline
