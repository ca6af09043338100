import Mathlib.Tactic.Use
import LockDiscipline.Contest
import LockDiscipline.Proofs.Frame
import LockDiscipline.Session.Step

/-!
# The verdict of a test case

The body of a test case is a list of `Deed`s: mutex calls, and commands to the sink that the
case reports to.  The deeds alone say what the case comes to as far as its function is
concerned (`functional`).  What the monitors find meanwhile is visible in the transcript, as
calls of the sink; `standing` is the violation that stands after them, the first one that
was recorded since the last clear.

A mutex call tells a sink of violations and of nothing else (`Rig.Reports`), so the record
of the case has both parts side by side until the case ends (`Conducted`), when the check
makes one verdict of them (`Conducted.runCase`).
-/

namespace LockDiscipline

/-- What the body of a test case does: a mutex call by an owner through a context, or
something with the record of the case. -/
inductive Deed where
  | call (o : Owner) (context handle : Nat) (c : Call)
  | fail (f : Failure)
  | skip (f : Failure)
  | setStep (n : Nat)
  | record (v : Violation)
  | clear
  deriving DecidableEq, Repr

namespace Deed

/-- The step that a deed is, in a case that reports to sink `s`. -/
def step (s : Nat) : Deed → Step
  | call o x m c => .touch (.call o x m c)
  | fail f => .tell (.sink s) (.fail f)
  | skip f => .record s (.skip f)
  | setStep n => .record s (.setStep n)
  | record v => .tell (.sink s) (.record v)
  | clear => .tell (.sink s) .clear

/-- What a deed says about the function of what is tested. -/
def judge (c : CaseRecord) : Deed → CaseRecord
  | fail f => c.fail f
  | skip f => c.skip f
  | setStep n => c.setStep n
  | _ => c

/-- What a case comes to as far as its function is concerned: what its deeds say in turn,
and at last the panic by which it ended, if it did. -/
def functional (ds : List Deed) (panic : Option Panic) : CaseRecord :=
  (ds ++ panic.toList.map fun p => Deed.fail p.failure).foldl judge .fresh

theorem violation_foldl_judge (ds : List Deed) (c : CaseRecord) :
  (ds.foldl judge c).violation = c.violation
  := by
  induction ds generalizing c with
  | nil => rfl
  | cons d ds ih =>
    rw [List.foldl_cons, ih]
    cases d with
    | fail f =>
      rw [judge, CaseRecord.fail]
      split
      · rfl
      · rfl
    | _ => rfl

end Deed

/-! ### The violation that stands -/

/-- The violation that a call of a sink records, if it does. -/
def SinkCall.recorded? : SinkCall → Option Violation
  | record v => some v
  | _ => none

/-- The calls of sink `s` among a list of effects. -/
def callsOf (s : Nat) (es : List Effect) : List SinkCall :=
  es.filterMap fun
    | .told s' c => if s' = s then some c else none
    | _ => none

/-- The calls of a sink since it was cleared last. -/
def sinceClear (cs : List SinkCall) : List SinkCall :=
  (cs.reverse.takeWhile (· ≠ .clear)).reverse

/-- The violation that stands after calls of a sink: the first that was recorded since the
last clear. -/
def standing (cs : List SinkCall) : Option Violation :=
  (sinceClear cs).findSome? SinkCall.recorded?

theorem standing_clear (cs : List SinkCall) :
  standing (cs ++ [.clear]) = none
  := by simp [standing, sinceClear]

/-- What is recorded later stands only if nothing stood before. -/
theorem standing_record (cs : List SinkCall) (v : Violation) :
  standing (cs ++ [.record v]) = (standing cs).or (some v)
  := by simp [standing, sinceClear, SinkCall.recorded?]

/-- Calls other than of these two kinds do not matter. -/
theorem standing_concat_fail (cs : List SinkCall) (f : Failure) :
  standing (cs ++ [.fail f]) = standing cs
  := by simp [standing, sinceClear, SinkCall.recorded?]

/-- Recording violations one after another is recording the first that can stand. -/
theorem standing_records (cs : List SinkCall) (vs : List Violation) (c : CaseRecord)
    (stands : c.violation = standing cs) :
  vs.foldl CaseRecord.record c
    = { c with violation := standing (cs ++ vs.map .record) }
  := by
  induction vs generalizing cs c with
  | nil => simp [← stands]
  | cons v vs ih =>
    rw [List.foldl_cons, ih (cs ++ [.record v])]
    · simp [CaseRecord.record]
    · rw [standing_record, CaseRecord.record, stands]

/-! ### What a mutex call tells a sink -/

/-- A report of a monitor is one call of its sink. -/
theorem callsOf_reports (s : Nat) (x : Monitor) (op : Operation) (v : Violation) :
  callsOf s (x.reports op v) = if x.sink = s then [.record v] else []
  := by
  have silent : callsOf s (x.echoes v.notice) = [] := by
    rw [Monitor.echoes]
    split
    · rfl
    · rfl
  by_cases here : x.sink = s
  · simpa [callsOf, Monitor.reports, here] using silent
  · simpa [callsOf, Monitor.reports, here] using silent

namespace Rig

variable {s : Nat} {r r' r'' : Rig CaseRecord}

/-- Between two rigs sink `s` was told of violations and of nothing else. -/
def Reports (s : Nat) (r r' : Rig CaseRecord) : Prop :=
  ∃ (es : List Effect) (vs : List Violation), r'.transcript = r.transcript ++ es
    ∧ callsOf s es = vs.map .record ∧ r'.sink s = vs.foldl CaseRecord.record (r.sink s)

namespace Reports

/-- Effects that are no calls of a sink tell it nothing. -/
theorem of_untold {es : List Effect} (transcript : r'.transcript = r.transcript ++ es)
    (untold : callsOf s es = []) (sink : r'.sink = r.sink) :
  Reports s r r'
  := by
  use es, [], transcript, untold
  rw [sink]
  rfl

theorem trans (h : Reports s r r') (h' : Reports s r' r'') :
  Reports s r r''
  := by
  obtain ⟨es, vs, transcript, told, sink⟩ := h
  obtain ⟨es', vs', transcript', told', sink'⟩ := h'
  use es ++ es', vs ++ vs'
  constructor
  · rw [transcript', transcript, List.append_assoc]
  constructor
  · rw [callsOf, List.filterMap_append, List.map_append, ← told, ← told', callsOf, callsOf]
  · rw [sink', sink, List.foldl_append]

/-- An observation tells the sink of the monitor of at most one violation. -/
theorem observe (i : Nat) (op : Operation) (m : Nat) :
  Reports s r (r.observe silent i op m)
  := by
  obtain ⟨c, counted⟩ | ⟨v, reported⟩ | skipped | waits := observe_cases (r := r) i op m
  · rw [counted]
    apply of_untold (List.append_nil _).symm
    · rfl
    · rfl
  · rw [reported, report_eq]
    by_cases here : (r.monitor i).sink = s
    · use (r.monitor i).reports op v, [v]
      simp [callsOf_reports, here, Sink.receive]
    · use (r.monitor i).reports op v, []
      simp [callsOf_reports, here, Ne.symm here]
  · rw [skipped]
    have untold : callsOf s [.logged (.observationSkipped op)] = [] := rfl
    apply of_untold _ untold
    · rfl
    · rfl
  · rw [waits]
    apply of_untold (List.append_nil _).symm rfl rfl

/-- A mutex call tells a sink of violations and of nothing else. -/
theorem call (o : Owner) (x m : Nat) (c : Call) :
  Reports s r (r.call silent o x m c).2
  := by
  apply call_of_parts
  case refl =>
    intro r
    apply of_untold (List.append_nil _).symm rfl rfl
  case trans => exact fun _ _ _ => trans
  case bare =>
    intro r handle script
    use [], []
    simp [callsOf]
  case seen =>
    intro r k n b
    use [.seen k n b], []
    simp [callsOf, Rig.emit]
  case observed => exact fun _ => observe

end Reports

end Rig

/-! ### The body of a case -/

namespace CaseRecord

variable {c : CaseRecord} {usage : Option Violation}

theorem violation_settle (c : CaseRecord) (leaked : Int) :
  (c.settle leaked).violation
    = c.violation.or (if leaked = 0 then none else some (.missingFree leaked))
  := by
  rw [settle]
  split
  · rw [Option.or_none]
  · rfl

/-- The record of a case that fails for a violation, if there is one. -/
def convicted (c : CaseRecord) (usage : Option Violation) : CaseRecord :=
  if usage.isSome then c.fail usageFailure else c

/-- Closing a record is convicting it. -/
theorem close_eq_convicted (clean : c.violation = none) :
  close { c with violation := usage } = c.convicted usage
  := by
  obtain ⟨verdict, failure, step, violation⟩ := c
  obtain rfl : violation = none := clean
  cases usage with
  | none => rfl
  | some v =>
    by_cases failed : verdict = .failed
    · simp [convicted, close, fail, clear, failed]
    · simp [convicted, close, fail, clear, failed]

end CaseRecord

/-- The deeds `ds` of a case of monitor `i` with sink `s` have led from `start` to `r`: the
record has what the deeds say, beside the violation that stands after the calls of the sink
since the start. -/
structure Conducted (s i : Nat) (start r : Rig CaseRecord) (ds : List Deed) : Prop where
  sink : (r.monitor i).sink = s
  free : (r.monitor i).tally.held = false
  record : ∃ es, r.transcript = start.transcript ++ es ∧
    r.sink s = { ds.foldl Deed.judge .fresh with violation := standing (callsOf s es) }

namespace Conducted

variable {s i : Nat} {start r : Rig CaseRecord} {ds : List Deed}

/-- A case is conducted from its start on. -/
theorem reset (sink : (r.monitor i).sink = s) (free : (r.monitor i).tally.held = false) :
  Conducted s i (r.tell silent s .reset) (r.tell silent s .reset) []
  := by
  constructor
  · apply sink
  · apply free
  · use []
    simp [Rig.tell, silent, Rig.setSink, Rig.emit, Sink.receive, CaseRecord.fresh, standing,
      sinceClear, callsOf]

/-- A call of the sink by the body that says what a deed says. -/
theorem tell (h : Conducted s i start r ds) (c : SinkCall) (d : Deed)
    (agrees : ∀ (x : CaseRecord) (cs : List SinkCall),
      Sink.receive { x with violation := standing cs } c
        = { Deed.judge x d with violation := standing (cs ++ [c]) }) :
  Conducted s i start (r.tell silent s c) (ds ++ [d])
  := by
  obtain ⟨es, transcript, record⟩ := h.record
  constructor
  · apply h.sink
  · apply h.free
  · use es ++ [.told s c]
    constructor
    · simp [Rig.tell, silent, Rig.setSink, Rig.emit, transcript]
    · simp [Rig.tell, silent, Rig.setSink, Rig.emit, record, agrees, callsOf]

theorem fail (h : Conducted s i start r ds) (f : Failure) :
  Conducted s i start (r.tell silent s (.fail f)) (ds ++ [.fail f])
  := by
  apply h.tell
  intro x cs
  rw [standing_concat_fail]
  by_cases failed : x.verdict = .failed
  · simp [Sink.receive, CaseRecord.fail, Deed.judge, failed]
  · simp [Sink.receive, CaseRecord.fail, Deed.judge, failed]

/-- A change of the record that says what a deed says, and which the sink is not called
for. -/
theorem change (h : Conducted s i start r ds) (c : RecordChange) (d : Deed)
    (agrees : ∀ (x : CaseRecord) (v : Option Violation),
      c.apply { x with violation := v } = { Deed.judge x d with violation := v }) :
  Conducted s i start (r.setSink s (c.apply (r.sink s))) (ds ++ [d])
  := by
  obtain ⟨es, transcript, record⟩ := h.record
  constructor
  · apply h.sink
  · apply h.free
  · use es, transcript
    simp [Rig.setSink, record, agrees]

/-- A mutex call says nothing about the function of what is tested, and a violation that it
records stands only if nothing stood before. -/
theorem call (h : Conducted s i start r ds) (o : Owner) (x m : Nat) (c : Call) :
  Conducted s i start (r.call silent o x m c).2 (ds ++ [.call o x m c])
  := by
  obtain ⟨es, transcript, record⟩ := h.record
  obtain ⟨es', vs, transcript', told, sink⟩ := Rig.Reports.call (s := s) (r := r) o x m c
  have keeps := Rig.Keeps.call (r := r) o x m c
  constructor
  · rw [keeps.sink, h.sink]
  · rw [keeps.held, h.free]
  · use es ++ es'
    constructor
    · rw [transcript', transcript, List.append_assoc]
    · rw [sink, record, standing_records (callsOf s es) vs _ rfl, ← told]
      simp [callsOf, Deed.judge]

/-- A deed does not panic, and the case goes on being conducted. -/
theorem step (h : Conducted s i start r ds) (d : Deed) :
  ∃ report, (d.step s).perform silent r = .ok report
    ∧ Conducted s i start report.after (ds ++ [d])
  := by
  cases d with
  | call o x m c =>
    rw [Deed.step, Step.perform]
    refine ⟨_, rfl, h.call o x m c⟩
  | fail f =>
    rw [Deed.step, Step.perform]
    refine ⟨_, rfl, h.fail f⟩
  | skip f =>
    rw [Deed.step, Step.perform]
    refine ⟨_, rfl, h.change (.skip f) (.skip f) ?_⟩
    intro x v
    rfl
  | setStep n =>
    rw [Deed.step, Step.perform]
    refine ⟨_, rfl, h.change (.setStep n) (.setStep n) ?_⟩
    intro x v
    rfl
  | record v =>
    rw [Deed.step, Step.perform]
    refine ⟨_, rfl, h.tell (.record v) (.record v) ?_⟩
    intro x cs
    rw [standing_record]
    rfl
  | clear =>
    rw [Deed.step, Step.perform]
    refine ⟨_, rfl, h.tell .clear .clear ?_⟩
    intro x cs
    rw [standing_clear]
    rfl

/-- So do all deeds, and the body ends by the panic that comes after them, if any. -/
theorem performAll (h : Conducted s i start r ds) (ds' : List Deed) (panic : Option Panic) :
  ∃ reports r', Step.performAll silent
      (ds'.map (Deed.step s) ++ panic.toList.map .panic) r = ((reports, panic), r')
    ∧ Conducted s i start r' (ds ++ ds')
  := by
  induction ds' generalizing r ds with
  | nil =>
    rw [List.append_nil]
    cases panic with
    | none => exact ⟨_, _, rfl, h⟩
    | some p => exact ⟨_, _, rfl, h⟩
  | cons d ds' ih =>
    obtain ⟨report, step, after⟩ := h.step d
    obtain ⟨reports, r', rest, ends⟩ := ih after
    use report :: reports, r'
    constructor
    · rw [List.map_cons, List.cons_append, Step.performAll, step]
      simp only [rest]
    · simpa using ends

/-- The check finds the violation that stands, or else the surplus of live handles, and
makes one verdict of both parts of the record. -/
theorem check (h : Conducted s i start r ds) {usage : Option Violation}
    (finds : ((r.sink s).settle (r.monitor i).tally.value.leaked).violation = usage) :
  ∃ r', r.check silent i = (usage, r')
    ∧ r'.sink s = (ds.foldl Deed.judge .fresh).convicted usage
    ∧ (r'.monitor i).tally.value = (r.monitor i).tally.value.settle
  := by
  obtain ⟨es, -, record⟩ := h.record
  have clean : (ds.foldl Deed.judge .fresh).violation = none := Deed.violation_foldl_judge ds _
  generalize ds.foldl Deed.judge .fresh = c at record clean
  have settled : (r.sink s).settle (r.monitor i).tally.value.leaked
      = { c with violation := usage } := by
    rw [← finds, record, CaseRecord.settle]
    split
    · rfl
    · rfl
  rw [Rig.check_of_free h.free, Rig.closeCase_eq, h.sink, finds, settled,
    CaseRecord.close_eq_convicted clean]
  refine ⟨_, rfl, ?_, ?_⟩
  · simp
  · simp [Monitor.adjust, Guard.put]

/-- A panic at the end is one more deed, the failure that it turns into. -/
theorem conclude (h : Conducted s i start r ds) (panic : Option Panic) :
  ∃ r', r.concludeCase silent i panic = r'.concludeCase silent i none
    ∧ Conducted s i start r' (ds ++ panic.toList.map fun p => .fail p.failure)
    ∧ r'.monitor = r.monitor ∧ (r'.sink s).violation = (r.sink s).violation
  := by
  cases panic with
  | none =>
    use r
    simpa using h
  | some p =>
    use r.tell silent s (.fail p.failure)
    constructor
    · rw [← h.sink]
      rfl
    constructor
    · apply h.fail
    constructor
    · rfl
    · simp only [Rig.tell, silent, Rig.emit, Rig.setSink, Family.set_self, Sink.receive,
        CaseRecord.fail]
      split
      · rfl
      · rfl

/-- A case whose body has been conducted ends with what it comes to functionally, convicted
of the violation that the check finds. -/
theorem runCase {ended : Rig CaseRecord} {α : Type} {a : α} {panic : Option Panic}
    {body : Rig CaseRecord → (α × Option Panic) × Rig CaseRecord} {usage : Option Violation}
    (h : Conducted s i (r.tell silent s .reset) ended ds) (sink : (r.monitor i).sink = s)
    (runs : body (r.tell silent s .reset) = ((a, panic), ended))
    (finds : ((ended.sink s).settle (ended.monitor i).tally.value.leaked).violation = usage) :
  ∃ after, r.runCase silent i body
      = ((((Deed.functional ds panic).convicted usage).verdict, a), after)
    ∧ after.sink s = (Deed.functional ds panic).convicted usage
    ∧ (after.monitor i).tally.value = (ended.monitor i).tally.value.settle
  := by
  obtain ⟨last, concludes, closes, monitor, violation⟩ := h.conclude panic
  have found : ((last.sink s).settle (last.monitor i).tally.value.leaked).violation = usage := by
    rw [CaseRecord.violation_settle, violation, monitor, ← CaseRecord.violation_settle, finds]
  obtain ⟨closed, check, record, settled⟩ := closes.check found
  have verdict : last.concludeCase silent i none
      = (Sink.verdict (closed.sink s), closed.tell silent s .verdict) := by
    simp only [Rig.concludeCase, check, closes.sink, Rig.askVerdict]
  use closed.tell silent s .verdict
  constructor
  · simp only [Rig.runCase, sink, runs, concludes, verdict, record]
    rfl
  constructor
  · rw [Deed.functional, ← record]
    simp [Rig.tell, silent, Rig.emit, Rig.setSink, Sink.receive]
  · rw [← monitor, ← settled]
    rfl

end Conducted

end LockDiscipline
