import LockDiscipline.Rig.Reentry

/-!
# Threads

Starting a thread into a slot and joining it.  A thread that is started runs its entry
point to the end as a new owner; what the entry point does is a list of touches, and it may
then panic.
-/

namespace LockDiscipline

/-- The entry point of a thread. -/
structure EntryPoint where
  body : List Touch := []
  panics : Bool := false
  deriving Inhabited

/-- The job of running an entry point as thread `n`. -/
def EntryPoint.job (n : Nat) (e : EntryPoint) : Job :=
  ⟨n, if e.panics then .panicked else .returned⟩

/-- The touch as `o` makes it. -/
def Touch.madeBy (o : Owner) : Touch → Touch
  | .call _ x m c => .call o x m c
  | .callDirectly _ n m c => .callDirectly o n m c
  | t => t

/-- The event that a status of a start leaves in the log, if the platform was to blame. -/
def spawnEvent? : ThreadStatus → Option Event
  | .refused .insufficientMemory | .refused .threadFailure => some .spawnFailed
  | _ => none

/-- The event that a status of a join leaves in the log. -/
def joinEvent? : ThreadStatus → Option Event
  | .refused .threadFailure => some .threadPanicked
  | _ => none

namespace Rig

variable {σ : Type}

/-- The rig with an event in the log, if there is one. -/
def log? (r : Rig σ) : Option Event → Rig σ
  | some e => r.log e
  | none => r

/-- Waits for the thread in slot `k`. -/
def joinThread (l : Launcher) (k : Nat) (r : Rig σ) : ThreadStatus × Rig σ :=
  let (status, slot) := l.join (r.slot k)
  (status, (r.setSlot k slot).log? (joinEvent? status))

variable [Sink σ]

/-- Runs an entry point as thread `n`; the answer is what its touches are answered. -/
def runEntry (R : Responder σ) (n : Nat) (e : EntryPoint) (r : Rig σ) : List Reply × Rig σ :=
  Touch.performAll R { r with started := n + 1 } (e.body.map (Touch.madeBy (.started n)))

/-- The rig after a launch into slot `k`.  If the entry point runs, the answer has what its
touches are answered. -/
def launched (R : Responder σ) (k : Nat) (entry : Option EntryPoint) (launch : Launch)
    (r : Rig σ) : (ThreadStatus × Option (List Reply)) × Rig σ :=
  let r := (r.setSlot k launch.slot).log? (spawnEvent? launch.status)
  match launch.running, entry with
  | some job, some e =>
    let (replies, r) := r.runEntry R job.number e
    ((launch.status, some replies), r)
  | _, _ => ((launch.status, none), r)

/-- Starts a thread into slot `k`, unless the launcher panics, which changes nothing. -/
def startThread (R : Responder σ) (l : Launcher) (k : Nat) (entry : Option EntryPoint)
    (r : Rig σ) : Except Panic ((ThreadStatus × Option (List Reply)) × Rig σ) :=
  (l.start l.platform (entry.map (EntryPoint.job r.started)) (r.slot k)).map
    fun launch => r.launched R k entry launch

end Rig

end LockDiscipline
