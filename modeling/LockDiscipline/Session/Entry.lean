import LockDiscipline.Session.Step

/-!
# Entries of a session

An `Entry` shows what a step left: its answer, a `Snapshot` of the rig, and the effects that
became visible since the entry before it was finished.  The steps in the body of a test case
finish their entries before the test case does.
-/

namespace LockDiscipline

/-- How many objects of each kind a session shows, and which of its sinks are probes. -/
structure Extent where
  handles : Nat
  monitors : Nat
  sinks : Nat
  isProbe : Nat → Bool

/-- What a session shows of a rig. -/
structure Snapshot where
  bytes : List UInt8
  monitors : List (Bool × Tally)
  sinks : List (Verdict × Option Violation)
  /-- The handles whose platform lock is taken. -/
  taken : List Nat
  deriving DecidableEq, Repr

/-- What a session shows of a given rig. -/
def Extent.snapshot (e : Extent) (r : Rig CaseRecord) : Snapshot where
  bytes := (List.range e.handles).map fun m => (r.handle m).byte
  monitors := (List.range e.monitors).map fun i =>
    ((r.monitor i).active, (r.monitor i).tally.value)
  sinks := (List.range e.sinks).map fun s => ((r.sink s).verdict, (r.sink s).violation)
  taken := (List.range e.handles).filter fun m => (r.handle m).locked

/-- Whether a session shows an effect: calls of sinks are shown for probes only. -/
def Extent.shows (e : Extent) : Effect → Bool
  | .told s _ => e.isProbe s
  | _ => true

/-- What a session shows of a step. -/
structure Entry where
  answer : Answer
  state : Snapshot
  effects : List Effect
  body : List Entry

mutual

/-- The entry of a report, when the first `shown` effects of the transcript were shown
before.  The second component is the number of effects shown afterwards. -/
def Report.entry (e : Extent) (shown : Nat) (report : Report) : Entry × Nat :=
  match report with
  | ⟨answer, after, body⟩ =>
    let (entries, shown) := Report.entries e shown body
    (⟨answer, e.snapshot after, (after.transcript.drop shown).filter e.shows, entries⟩,
      after.transcript.length)

/-- The entries of a list of reports. -/
def Report.entries (e : Extent) (shown : Nat) (reports : List Report) : List Entry × Nat :=
  match reports with
  | [] => ([], shown)
  | report :: rest =>
    let (entry, shown) := report.entry e shown
    let (entries, shown) := Report.entries e shown rest
    (entry :: entries, shown)

end

end LockDiscipline
