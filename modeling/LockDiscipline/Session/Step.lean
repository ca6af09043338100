import LockDiscipline.Rig.Threads

/-!
# Steps of a session

A session works on a rig whose sinks are case records.  Its `Step`s are the touches, the
lifecycle of monitors, test cases, changes of contexts and scripts, calls of sinks, threads,
and queries.  `Step.perform` gives the report of a step, with the reports of the steps in the
body of a test case, unless the step panics.
-/

namespace LockDiscipline

/-- Which sink a step is about: one by its number, or the one a monitor reports to. -/
inductive Target where
  | sink (s : Nat)
  | monitor (i : Nat)
  deriving DecidableEq, Repr

/-- A question about the rig. -/
inductive Query where
  | primitive (context : Nat)
  | hook (context : Nat)
  | handle (m : Nat)
  | servedCalls (primitive : Nat)
  | reached (sink : Nat)
  | failure (sink : Nat)
  | tally (monitor : Nat)
  | settings (monitor : Nat)
  | attached (slot : Nat)
  deriving DecidableEq, Repr

/-- A change of a script. -/
inductive ScriptChange where
  | pushLock (s : Status)
  | pushUnlock (s : Status)
  | clearCalls
  deriving DecidableEq, Repr

/-- A change of a case record that sinks in general do not know. -/
inductive RecordChange where
  | skip (f : Failure)
  | setStep (n : Nat)
  deriving DecidableEq, Repr

/-- A step of a session. -/
inductive Step where
  | touch (t : Touch)
  | enable (monitor context : Nat)
  | disable (monitor context : Nat)
  | rebase (monitor : Nat)
  | runCase (monitor : Nat) (body : List Step)
  | panic (p : Panic)
  | substitute (context primitive : Nat)
  | setHook (context : Nat) (hook : Option Observer)
  | decorate (primitive monitor : Nat)
  | script (primitive : Nat) (change : ScriptChange)
  | tell (target : Target) (c : SinkCall)
  | record (sink : Nat) (change : RecordChange)
  | startThread (slot : Nat) (l : Launcher) (entry : Option EntryPoint)
  | joinThread (slot : Nat) (l : Launcher)
  | query (q : Query)

/-- What a step is answered. -/
inductive Answer where
  | reply (a : Reply)
  | lifecycle (s : LifecycleStatus)
  | verdict (v : Verdict)
  | closed (v : Verdict)
  | primitive (place : Nat)
  | observer (o : Option Observer)
  | handle (h : Handle)
  | servedCalls (cs : List ServedCall)
  | reached (n : Option Nat)
  | failure (f : Option Failure)
  | tally (t : Tally)
  | settings (s : Settings)
  | attached (b : Bool)
  | started (s : ThreadStatus) (attached : Bool) (name : Option String)
      (replies : Option (List Reply))
  | joined (s : ThreadStatus) (attached : Bool)

/-- What a step leaves: its answer, the rig, and the reports of the steps of its body. -/
structure Report where
  answer : Answer
  after : Rig CaseRecord
  body : List Report

/-- The place of a primitive among those that were made. -/
def Rig.place {σ : Type} (r : Rig σ) (p : Primitive) : Nat := r.primitives.idxOf p

namespace Query

/-- The answer to a query. -/
def answer (r : Rig CaseRecord) : Query → Answer
  | primitive x => .primitive (r.place (r.context x).primitive)
  | hook x => .observer (r.context x).hook
  | handle m => .handle (r.handle m)
  | servedCalls p => .servedCalls (r.script p).calls
  | reached s => .reached (r.sink s).step
  | failure s => .failure (r.sink s).failure
  | tally i => .tally (r.monitor i).tally.value
  | settings i => .settings (r.monitor i).settings
  | attached k => .attached (r.slot k).attached

end Query

/-- The script after a change. -/
def ScriptChange.apply (q : Script) : ScriptChange → Script
  | pushLock s => q.pushLock s
  | pushUnlock s => q.pushUnlock s
  | clearCalls => q.clearCalls

/-- The case record after a change. -/
def RecordChange.apply (c : CaseRecord) : RecordChange → CaseRecord
  | skip f => c.skip f
  | setStep n => c.setStep n

/-- The number of the sink that a step is about. -/
def Target.number (r : Rig CaseRecord) : Target → Nat
  | sink s => s
  | monitor i => (r.monitor i).sink

namespace Rig

/-- Calls a sink and answers as the sink does: a query by what it asks for, and everything
else by nothing. -/
def consult (R : Responder CaseRecord) (s : Nat) (c : SinkCall) (r : Rig CaseRecord) :
    Answer × Rig CaseRecord :=
  match c with
  | .violation =>
    let (v, r) := r.askViolation R s
    (.reply (.pending v), r)
  | .verdict =>
    let (v, r) := r.askVerdict R s
    (.verdict v, r)
  | _ => (.reply .done, r.tell R s c)

end Rig

/-- The report of a step without a body. -/
def Report.plain (x : Answer × Rig CaseRecord) : Report := ⟨x.1, x.2, []⟩

namespace Step

mutual

/-- Performs a step.  A step that panics has no report. -/
def perform (R : Responder CaseRecord) (step : Step) (r : Rig CaseRecord) :
    Except (Panic × Rig CaseRecord) Report :=
  match step with
  | .touch t =>
    let (a, r) := t.perform R r
    .ok (.plain (.reply a, r))
  | .enable i x =>
    let (s, r) := r.enable i x
    .ok (.plain (.lifecycle s, r))
  | .disable i x =>
    let (s, r) := r.disable i x
    .ok (.plain (.lifecycle s, r))
  | .rebase i => .ok (.plain (.reply .done, r.rebase i))
  | .runCase i body =>
    let ((verdict, reports), r) := r.runCase R i (performAll R body)
    .ok ⟨.closed verdict, r, reports⟩
  | .panic p => .error (p, r)
  | .substitute x n =>
    .ok (.plain (.primitive (r.place (r.context x).primitive),
      r.substitute x (r.primitive n)))
  | .setHook x hook => .ok (.plain (.observer (r.context x).hook, r.setHook x hook))
  | .decorate n i =>
    let (p, r) := r.decorate (r.primitive n) i
    .ok (.plain (.primitive (r.place p), r))
  | .script n change =>
    .ok (.plain (.reply .done, r.setScript n (change.apply (r.script n))))
  | .tell target c => .ok (.plain (r.consult R (target.number r) c))
  | .record s change =>
    .ok (.plain (.reply .done, r.setSink s (change.apply (r.sink s))))
  | .startThread k l entry =>
    match r.startThread R l k entry with
    | .error p => .error (p, r)
    | .ok ((status, replies), r) =>
      .ok (.plain (.started status (r.slot k).attached l.threadName replies, r))
  | .joinThread k l =>
    let (status, r) := r.joinThread l k
    .ok (.plain (.joined status (r.slot k).attached, r))
  | .query q => .ok (.plain (q.answer r, r))

/-- Performs steps one after another, up to the first that panics.  The answer has the
reports of the steps that completed, and the panic. -/
def performAll (R : Responder CaseRecord) (steps : List Step) (r : Rig CaseRecord) :
    (List Report × Option Panic) × Rig CaseRecord :=
  match steps with
  | [] => (([], none), r)
  | step :: rest =>
    match step.perform R r with
    | .error (p, r) => (([], some p), r)
    | .ok report =>
      let ((reports, p?), r) := performAll R rest report.after
      ((report :: reports, p?), r)

end

end Step

end LockDiscipline
