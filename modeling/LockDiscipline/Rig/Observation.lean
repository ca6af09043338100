import LockDiscipline.Rig

/-!
# Observations and checks

What a monitor does when it is told of an operation (`observe`), when a test case ends
(`check`) and when the handles that are live become expected (`rebase`).  All of it happens
while the guard of the monitor is held, and a caller that finds the guard busy and may skip
leaves one event in the log and nothing else.
-/

namespace LockDiscipline.Rig

variable {σ : Type} [Sink σ]

/-- Does `f` while the guard of monitor `i` is held. -/
def guarded (i : Nat) (f : Rig σ → Rig σ) (r : Rig σ) : Rig σ :=
  let held := f (r.setMonitor i (r.monitor i).hold)
  held.setMonitor i (held.monitor i).release

/-- Changes the tally of monitor `i` by `f`. -/
def adjust (i : Nat) (f : Tally → Tally) (r : Rig σ) : Rig σ :=
  r.setMonitor i ((r.monitor i).adjust f)

/-- Writes a text to standard output, if monitor `i` echoes. -/
def echoFor (i : Nat) (s : String) (r : Rig σ) : Rig σ :=
  if (r.monitor i).settings.echo then r.emit (.echoed (s ++ " ")) else r

/-- Reports a violation found at an operation: to the sink, in the log, and perhaps on
standard output, in this order. -/
def report (R : Responder σ) (i : Nat) (op : Operation) (v : Violation) (r : Rig σ) :
    Rig σ :=
  ((r.tell R (r.monitor i).sink (.record v)).log (.violated v op)).echoFor i v.notice

/-- What an operation on handle `m` does to the handle and the tally of monitor `i`.  A
violation is reported and leaves both as they are. -/
def judge (R : Responder σ) (i : Nat) (op : Operation) (m : Nat) (r : Rig σ) : Rig σ :=
  match transition (r.handle m).byte op with
  | .ok c => (r.setHandle m ((r.handle m).mark c.next)).adjust i (·.count c.delta)
  | .error v => r.report R i op v

/-- Monitor `i` is told of an operation on handle `m`.  A caller that holds the guard itself
and may not skip would wait for ever; here it goes on, and nothing was observed. -/
def observe (R : Responder σ) (i : Nat) (op : Operation) (m : Nat) (r : Rig σ) : Rig σ :=
  match (r.monitor i).attempt with
  | .acquired => r.guarded i (judge R i op m)
  | .busy => r.log (.observationSkipped op)
  | .waiting => r

/-- An observer is told of a call on handle `m`. -/
def notify (R : Responder σ) (n : Notice) (m : Nat) (r : Rig σ) : Observer → Rig σ
  | .monitor i => r.observe R i n.operation m
  | .recorder k => r.emit (.seen k n (r.handle m).byte)

/-- Observers are told of a call on handle `m`, one after another. -/
def notifyAll (R : Responder σ) (n : Notice) (m : Nat) (os : List Observer) (r : Rig σ) :
    Rig σ :=
  os.foldl (notify R n m) r

/-! ### The end of a test case -/

/-- Reports a surplus of live handles of monitor `i`, if there is one, and takes it off the
tally: in the log, perhaps on standard output, and to the sink, in this order. -/
def settle (R : Responder σ) (i : Nat) (r : Rig σ) : Rig σ :=
  let leaked := (r.monitor i).tally.value.leaked
  if leaked = 0 then r
  else
    (((r.log (.leaked leaked)).echoFor i (leakNotice leaked)).adjust i Tally.settle).tell R
      (r.monitor i).sink (.record (.missingFree leaked))

/-- Fails the test case of sink `s`, unless it has failed already. -/
def convict (R : Responder σ) (s : Nat) (r : Rig σ) : Rig σ :=
  let (verdict, r) := r.askVerdict R s
  if verdict = .failed then r else r.tell R s (.fail usageFailure)

/-- What the check of a test case does while the guard of monitor `i` is held.  The answer
is the violation that was pending. -/
def closeCase (R : Responder σ) (i : Nat) (r : Rig σ) : Option Violation × Rig σ :=
  let s := (r.monitor i).sink
  let (pending, r) := (r.settle R i).askViolation R s
  let r := if pending.isSome then r.convict R s else r
  (pending, r.tell R s .clear)

/-- Monitor `i` checks the test case that ends.  The answer is the violation that was
pending, and none if the check was skipped. -/
def check (R : Responder σ) (i : Nat) (r : Rig σ) : Option Violation × Rig σ :=
  match (r.monitor i).attempt with
  | .acquired =>
    let (pending, held) := (r.setMonitor i (r.monitor i).hold).closeCase R i
    (pending, held.setMonitor i (held.monitor i).release)
  | .busy => (none, r.log .checkSkipped)
  | .waiting => (none, r)

/-- The handles that are live become the baseline of monitor `i`. -/
def rebase (i : Nat) (r : Rig σ) : Rig σ :=
  (r.adjust i Tally.rebase).log (.rebased (r.monitor i).tally.value.live)

end LockDiscipline.Rig
