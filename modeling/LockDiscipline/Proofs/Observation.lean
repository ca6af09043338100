import LockDiscipline.Rig.Lifecycle

/-!
# Observations and checks under a free guard

When the guard of a monitor is free and sinks only change themselves, the guard leaves no
trace: `observe` is `judge`, and `check` is `closeCase`.  For both the rig afterwards is
written out.  A legal operation marks the handle and counts; an illegal one leaves all
handles and tallies as they are, and is recorded, logged and echoed.  A check settles the
tally and calls the sink as `Sink.inquiry` says, which leaves a case record as
`CaseRecord.settle` and `CaseRecord.close` say.
-/

namespace LockDiscipline

/-! ### Talking to a sink -/

namespace Sink

variable {σ : Type} [Sink σ]

/-- The sink after some calls. -/
def receiveAll (a : σ) (cs : List SinkCall) : σ := cs.foldl receive a

/-- The calls by which a surplus of live handles is recorded. -/
def notes (leaked : Int) : List SinkCall :=
  if leaked = 0 then [] else [.record (.missingFree leaked)]

/-- The calls by which a sink is asked whether a violation is pending, and its test case is
failed if there is one. -/
def plea (a : σ) : List SinkCall :=
  if (violation a).isSome then
    [.violation, .verdict]
      ++ if verdict (receive a .violation) = .failed then [] else [.fail usageFailure]
  else [.violation]

/-- The calls of a check that finds the given surplus. -/
def inquiry (a : σ) (leaked : Int) : List SinkCall :=
  notes leaked ++ plea (receiveAll a (notes leaked)) ++ [.clear]

theorem receiveAll_append (a : σ) (cs cs' : List SinkCall) :
  receiveAll a (cs ++ cs') = receiveAll (receiveAll a cs) cs'
  := List.foldl_append

end Sink

namespace CaseRecord

/-- The record after a surplus of live handles, if there is one, was reported. -/
def settle (c : CaseRecord) (leaked : Int) : CaseRecord :=
  if leaked = 0 then c else c.record (.missingFree leaked)

/-- The record after a check: a pending violation fails the case, and is cleared. -/
def close (c : CaseRecord) : CaseRecord :=
  (if c.violation.isSome then c.fail usageFailure else c).clear

theorem receiveAll_notes (c : CaseRecord) (leaked : Int) :
  Sink.receiveAll c (Sink.notes leaked) = c.settle leaked
  := by
  rw [Sink.notes, settle]
  split
  · rfl
  · rfl

/-- A check leaves the record as it is once the surplus was reported, closed. -/
theorem receiveAll_inquiry (c : CaseRecord) (leaked : Int) :
  Sink.receiveAll c (Sink.inquiry c leaked) = (c.settle leaked).close
  := by
  rw [Sink.inquiry, Sink.receiveAll_append, Sink.receiveAll_append, receiveAll_notes]
  generalize c.settle leaked = c
  have violation : Sink.violation c = c.violation := rfl
  cases pending : c.violation with
  | none => simp [Sink.plea, violation, pending, close, Sink.receiveAll, Sink.receive]
  | some v =>
    by_cases failed : c.verdict = .failed
    · simp [Sink.plea, violation, pending, failed, close, fail, Sink.receiveAll, Sink.receive,
        Sink.verdict]
    · simp [Sink.plea, violation, pending, failed, close, Sink.receiveAll, Sink.receive,
        Sink.verdict]

end CaseRecord

namespace Tally

/-- A tally without a surplus is settled. -/
theorem settle_of_balanced {t : Tally} (balanced : t.leaked = 0) :
  t.settle = t
  := by
  obtain ⟨live, baseline⟩ := t
  obtain rfl : live = baseline := Int.sub_eq_zero.mp balanced
  rfl

end Tally

namespace Monitor

variable {x : Monitor}

theorem attempt_of_free (free : x.tally.held = false) :
  x.attempt = .acquired
  := by simp [attempt, Guard.attempt, free]

theorem free_of_attempt (acquired : x.attempt = .acquired) :
  x.tally.held = false
  := by
  cases held : x.tally.held with
  | false => rfl
  | true =>
    cases policy : x.settings.guardPolicy with
    | block => simp [attempt, Guard.attempt, held, policy] at acquired
    | skipWhenBusy => simp [attempt, Guard.attempt, held, policy] at acquired

theorem release_hold (free : x.tally.held = false) :
  x.hold.release = x
  := by simp only [hold, release, Guard.hold, Guard.release, ← free]

theorem release_adjust_hold (free : x.tally.held = false) (f : Tally → Tally) :
  (x.hold.adjust f).release = x.adjust f
  := by
  simp only [hold, adjust, release, Guard.hold, Guard.put, Guard.release, ← free]

/-! ### What becomes visible -/

/-- What a monitor writes to standard output to show the text `s`. -/
def echoes (x : Monitor) (s : String) : List Effect :=
  if x.settings.echo then [.echoed (s ++ " ")] else []

/-- What becomes visible when a monitor reports a violation found at an operation. -/
def reports (x : Monitor) (op : Operation) (v : Violation) : List Effect :=
  .told x.sink (.record v) :: .logged (.violated v op) :: x.echoes v.notice

/-- What becomes visible when a monitor reports a surplus of live handles, if any. -/
def surplus (x : Monitor) : List Effect :=
  let leaked := x.tally.value.leaked
  if leaked = 0 then []
  else
    .logged (.leaked leaked) :: x.echoes (leakNotice leaked)
      ++ [.told x.sink (.record (.missingFree leaked))]

/-- What becomes visible when a monitor checks a case whose sink is `a`. -/
def parley {σ : Type} [Sink σ] (x : Monitor) (a : σ) : List Effect :=
  x.surplus
    ++ (Sink.plea (Sink.receiveAll a (Sink.notes x.tally.value.leaked))).map (.told x.sink)
    ++ [.told x.sink .clear]

/-- What becomes visible when a monitor fails a case whose record is `c` for a pending
violation, if any. -/
def conviction (x : Monitor) (c : CaseRecord) : List Effect :=
  if c.violation.isSome then
    .told x.sink .verdict
      :: (if c.verdict = .failed then [] else [.told x.sink (.fail usageFailure)])
  else []

/-- What becomes visible when a monitor checks a case whose record is `c`. -/
def closing (x : Monitor) (c : CaseRecord) : List Effect :=
  x.surplus ++ .told x.sink .violation :: x.conviction (c.settle x.tally.value.leaked)
    ++ [.told x.sink .clear]

theorem parley_eq_closing (x : Monitor) (c : CaseRecord) :
  x.parley c = x.closing c
  := by
  have pleads : (Sink.plea (c.settle x.tally.value.leaked)).map (Effect.told x.sink)
      = .told x.sink .violation :: x.conviction (c.settle x.tally.value.leaked) := by
    generalize c.settle x.tally.value.leaked = c
    have violation : Sink.violation c = c.violation := rfl
    cases pending : c.violation with
    | none => simp [Sink.plea, violation, conviction, pending]
    | some v =>
      by_cases failed : c.verdict = .failed
      · simp [Sink.plea, violation, conviction, pending, failed, Sink.receive, Sink.verdict]
      · simp [Sink.plea, violation, conviction, pending, failed, Sink.receive, Sink.verdict]
  rw [parley, CaseRecord.receiveAll_notes, pleads, closing]

end Monitor

namespace Rig

variable {i : Nat}

section

variable {σ : Type} {r : Rig σ}

theorem echoFor_eq (s : String) :
  r.echoFor i s = { r with transcript := r.transcript ++ (r.monitor i).echoes s }
  := by
  rw [echoFor, Monitor.echoes]
  split
  · rfl
  · rw [List.append_nil]

variable [Sink σ]

/-- A report changes the sink and the transcript, and nothing else. -/
theorem report_eq (op : Operation) (v : Violation) :
  r.report silent i op v =
    { r with
      sink := r.sink.set (r.monitor i).sink
        (Sink.receive (r.sink (r.monitor i).sink) (.record v))
      transcript := r.transcript ++ (r.monitor i).reports op v }
  := by
  rw [report, echoFor_eq]
  simp [Monitor.reports, tell, silent, log, emit, setSink]

/-- Under a free guard an operation is judged, and the guard is free again. -/
theorem observe_of_free (free : (r.monitor i).tally.held = false) (op : Operation) (m : Nat) :
  r.observe silent i op m = r.judge silent i op m
  := by
  have acquired : (r.monitor i).attempt = .acquired := Monitor.attempt_of_free free
  simp only [observe, acquired, guarded, judge, setMonitor]
  cases transition (r.handle m).byte op with
  | ok c => simp [adjust, setHandle, setMonitor, Monitor.release_adjust_hold free]
  | error v =>
    have reports : (r.monitor i).hold.reports = (r.monitor i).reports := rfl
    have sink : (r.monitor i).hold.sink = (r.monitor i).sink := rfl
    simp [report_eq, Monitor.release_hold free, reports, sink]

/-- A legal operation marks the handle and counts. -/
theorem observe_of_ok (free : (r.monitor i).tally.held = false) {op : Operation} {m : Nat}
    {c : Change} (legal : transition (r.handle m).byte op = .ok c) :
  r.observe silent i op m =
    (r.setHandle m ((r.handle m).mark c.next)).adjust i (·.count c.delta)
  := by rw [observe_of_free free, judge, legal]

/-- An illegal operation is reported. -/
theorem observe_of_error (free : (r.monitor i).tally.held = false) {op : Operation} {m : Nat}
    {v : Violation} (illegal : transition (r.handle m).byte op = .error v) :
  r.observe silent i op m = r.report silent i op v
  := by rw [observe_of_free free, judge, illegal]

/-- Whatever the guard, an operation is counted, or reported, or skipped, or never
observed. -/
theorem observe_cases (i : Nat) (op : Operation) (m : Nat) :
  (∃ c : Change, r.observe silent i op m
      = (r.setHandle m ((r.handle m).mark c.next)).adjust i (·.count c.delta))
    ∨ (∃ v, r.observe silent i op m = r.report silent i op v)
    ∨ r.observe silent i op m = r.log (.observationSkipped op)
    ∨ r.observe silent i op m = r
  := by
  cases attempt : (r.monitor i).attempt with
  | acquired =>
    have free := Monitor.free_of_attempt attempt
    cases changes : transition (r.handle m).byte op with
    | ok c => exact .inl ⟨c, observe_of_ok free changes⟩
    | error v => exact .inr (.inl ⟨v, observe_of_error free changes⟩)
  | busy =>
    right; right; left
    rw [observe, attempt]
  | waiting =>
    right; right; right
    rw [observe, attempt]

/-! ### The check -/

/-- Asks sink `s` whether a violation is pending, and fails its test case if one is. -/
def plead (R : Responder σ) (s : Nat) (r : Rig σ) : Rig σ :=
  if (Sink.violation (r.sink s)).isSome then (r.tell R s .violation).convict R s
  else r.tell R s .violation

theorem closeCase_eq_plead (R : Responder σ) (i : Nat) (r : Rig σ) :
  r.closeCase R i =
    (Sink.violation ((r.settle R i).sink (r.monitor i).sink),
      ((r.settle R i).plead R (r.monitor i).sink).tell R (r.monitor i).sink .clear)
  := rfl

/-- The rig after some calls of a sink that only changes itself. -/
theorem foldl_tell_eq (r : Rig σ) (s : Nat) (cs : List SinkCall) :
  cs.foldl (fun r c => r.tell silent s c) r
    = { r with
        sink := r.sink.set s (Sink.receiveAll (r.sink s) cs)
        transcript := r.transcript ++ cs.map (.told s) }
  := by
  induction cs generalizing r with
  | nil => simp [Sink.receiveAll]
  | cons c cs ih =>
    rw [List.foldl_cons, ih]
    simp [tell, silent, emit, setSink, Sink.receiveAll]

theorem plead_eq (r : Rig σ) (s : Nat) :
  r.plead silent s
    = { r with
        sink := r.sink.set s (Sink.receiveAll (r.sink s) (Sink.plea (r.sink s)))
        transcript := r.transcript ++ (Sink.plea (r.sink s)).map (.told s) }
  := by
  rw [← foldl_tell_eq, plead, Sink.plea]
  by_cases pending : (Sink.violation (r.sink s)).isSome = true
  · have asked : (r.tell silent s .violation).sink s = Sink.receive (r.sink s) .violation := by
      simp [tell, silent, emit, setSink]
    simp only [pending, ↓reduceIte, convict, askVerdict, asked]
    by_cases failed : Sink.verdict (Sink.receive (r.sink s) .violation) = .failed
    · simp [failed]
    · simp [failed]
  · simp [pending]

/-- A surplus is logged, echoed and recorded, and taken off the tally. -/
theorem settle_eq :
  r.settle silent i =
    { r with
      monitor := r.monitor.set i ((r.monitor i).adjust Tally.settle)
      sink := r.sink.set (r.monitor i).sink (Sink.receiveAll (r.sink (r.monitor i).sink)
        (Sink.notes (r.monitor i).tally.value.leaked))
      transcript := r.transcript ++ (r.monitor i).surplus }
  := by
  simp only [settle, echoFor_eq, Monitor.surplus, Sink.notes]
  by_cases balanced : (r.monitor i).tally.value.leaked = 0
  · have adjusted : (r.monitor i).adjust Tally.settle = r.monitor i := by
      rw [Monitor.adjust, Guard.put, Tally.settle_of_balanced balanced]
    simp [balanced, adjusted, Sink.receiveAll]
  · simp [balanced, log, emit, adjust, setMonitor, tell, silent, setSink, Monitor.adjust,
      Sink.receiveAll]

/-- A check settles the tally, whatever the sink answers. -/
theorem closeCase_eq_parley :
  r.closeCase silent i =
    (Sink.violation (Sink.receiveAll (r.sink (r.monitor i).sink)
        (Sink.notes (r.monitor i).tally.value.leaked)),
      { r with
        monitor := r.monitor.set i ((r.monitor i).adjust Tally.settle)
        sink := r.sink.set (r.monitor i).sink (Sink.receiveAll (r.sink (r.monitor i).sink)
          (Sink.inquiry (r.sink (r.monitor i).sink) (r.monitor i).tally.value.leaked))
        transcript := r.transcript ++ (r.monitor i).parley (r.sink (r.monitor i).sink) })
  := by
  have cleared (a : σ) : Sink.receiveAll a [.clear] = Sink.receive a .clear := rfl
  simp [closeCase_eq_plead, settle_eq, plead_eq, tell, silent, emit, setSink, Monitor.parley,
    Sink.inquiry, Sink.receiveAll_append, cleared]

/-- Under a free guard the case is closed, and the guard is free again. -/
theorem check_of_free (free : (r.monitor i).tally.held = false) :
  r.check silent i = r.closeCase silent i
  := by
  have acquired : (r.monitor i).attempt = .acquired := Monitor.attempt_of_free free
  have parley (a : σ) : (r.monitor i).hold.parley a = (r.monitor i).parley a := rfl
  have sink : (r.monitor i).hold.sink = (r.monitor i).sink := rfl
  have tally : (r.monitor i).hold.tally.value = (r.monitor i).tally.value := rfl
  simp [check, acquired, closeCase_eq_parley, setMonitor, parley, sink, tally,
    Monitor.release_adjust_hold free]

end

/-- A check of a case record answers what is pending when the surplus was reported, and closes
the record. -/
theorem closeCase_eq {r : Rig CaseRecord} :
  r.closeCase silent i =
    (((r.sink (r.monitor i).sink).settle (r.monitor i).tally.value.leaked).violation,
      { r with
        monitor := r.monitor.set i ((r.monitor i).adjust Tally.settle)
        sink := r.sink.set (r.monitor i).sink
          ((r.sink (r.monitor i).sink).settle (r.monitor i).tally.value.leaked).close
        transcript := r.transcript ++ (r.monitor i).closing (r.sink (r.monitor i).sink) })
  := by
  rw [closeCase_eq_parley, CaseRecord.receiveAll_notes, CaseRecord.receiveAll_inquiry,
    Monitor.parley_eq_closing]
  rfl

end Rig

end LockDiscipline
