import LockDiscipline.Status
import LockDiscipline.Verdict

/-!
# Launchers

A `Launcher` starts `Job`s as threads, into `Slot`s, and joins them.  A slot is empty, or it
holds the job of a thread that was not joined yet.  A slot is filled exactly by a start that
succeeds, which is when the job runs, and emptied exactly by a join that finds a thread in
it.  A launcher whose threads have a name that cannot be given panics instead of starting one.
-/

namespace LockDiscipline

/-- How a launcher starts threads. -/
inductive Launcher where
  | spawn
  | builder (name : Option String) (stackSize : Option Nat)
  | unavailable
  deriving DecidableEq, Repr, Inhabited

/-- How the entry point of a thread ends. -/
inductive Ending where
  | returned
  | panicked
  deriving DecidableEq, Repr

/-- The status of a join that finds an entry point ended in the given way. -/
def Ending.status : Ending → ThreadStatus
  | returned => .ok
  | panicked => .refused .threadFailure

/-- What a thread has to do: which job it is, and how its entry point will end. -/
structure Job where
  number : Nat
  ending : Ending
  deriving DecidableEq, Repr

/-- A place for one thread. -/
structure Slot where
  thread : Option Job := none
  deriving DecidableEq, Repr, Inhabited

/-- Whether a slot holds a thread that was not joined yet. -/
def Slot.attached (s : Slot) : Bool := s.thread.isSome

/-- What the platform makes of a request for a thread. -/
inductive PlatformAnswer where
  | granted
  | outOfMemory
  | refused
  | panicked (p : Panic)
  deriving DecidableEq, Repr

/-- What becomes of a request for a thread: its status, the job that runs, if any, and the
slot afterwards. -/
structure Launch where
  status : ThreadStatus
  running : Option Job
  slot : Slot
  deriving DecidableEq, Repr

/-- The least stack size in bytes that the platform cannot give. -/
def stackSizeLimit : Nat := 140737488355328

/-- The panic that a name for a thread leads to, if it holds a zero byte: it tells where the
first one is, and all the bytes of the name. -/
def namePanic? (name : String) : Option Panic :=
  let bytes := name.toUTF8.toList
  (bytes.findIdx? (· = 0)).map fun i =>
    .text ("thread name may not contain interior null bytes: NulError(" ++ toString i ++ ", ["
      ++ ", ".intercalate (bytes.map fun b => toString b.toNat) ++ "])")

namespace Launcher

/-- The name that a launcher gives to its threads. -/
def threadName : Launcher → Option String
  | builder name _ => name
  | _ => none

/-- The size of the stacks that a launcher asks for. -/
def stackSize : Launcher → Option Nat
  | builder _ size => size
  | _ => none

/-- What the platform makes of the requests of a launcher: it looks at the name first. -/
def platform (l : Launcher) : PlatformAnswer :=
  match l.threadName.bind namePanic? with
  | some p => .panicked p
  | none => if (l.stackSize.getD 0) < stackSizeLimit then .granted else .refused

/-- Starts a job, if there is one, into a slot, unless the launcher panics. -/
def start (l : Launcher) (answer : PlatformAnswer) (job : Option Job) (s : Slot) :
    Except Panic Launch :=
  match l, job with
  | .unavailable, _ => .ok ⟨.refused .badInputData, none, s⟩
  | _, none => .ok ⟨.refused .badInputData, none, s⟩
  | _, some job =>
    if s.attached then .ok ⟨.refused .badInputData, none, s⟩
    else
      match answer with
      | .granted => .ok ⟨.ok, some job, ⟨some job⟩⟩
      | .outOfMemory => .ok ⟨.refused .insufficientMemory, none, s⟩
      | .refused => .ok ⟨.refused .threadFailure, none, s⟩
      | .panicked p => .error p

/-- Waits for the thread of a slot to end. -/
def join (l : Launcher) (s : Slot) : ThreadStatus × Slot :=
  match l, s.thread with
  | .unavailable, _ => (.refused .badInputData, s)
  | _, none => (.refused .badInputData, s)
  | _, some job => (job.ending.status, {})

end Launcher

end LockDiscipline
