import LockDiscipline.Handle
import LockDiscipline.Violation

/-!
# Transitions

`transition b op` says what the observation of `op` on a handle with byte `b` does: a
`Change` of the byte and of the number of live handles, or a violation, which changes
neither.  Initialisation is legal on every byte, since memory that was never initialised
cannot be told from a freed handle.  A `Standing` is a byte with a live count, and
`Standing.trace` applies a list of operations to it.
-/

namespace LockDiscipline

/-- An operation on a handle as it is observed.  A lock that was refused by the primitive
has `acquired = false`. -/
inductive Operation where
  | init
  | free
  | lock (acquired : Bool)
  | unlock
  deriving DecidableEq, Repr

/-- The short name of an operation. -/
def Operation.name : Operation → String
  | init => "init"
  | free => "free"
  | lock _ => "lock"
  | unlock => "unlock"

/-- What a legal operation does: the state it leads to and the change in the number of
live handles. -/
structure Change where
  next : LockState
  delta : Int
  deriving DecidableEq, Repr

/-- The effect of an operation other than initialisation on a handle in state `s`. -/
def LockState.transition (s : LockState) : Operation → Except Violation Change
  | .init => .ok ⟨.idle, 1⟩
  | .free =>
    match s with
    | .freed => .error .doubleFree
    | .idle => .ok ⟨.freed, -1⟩
    | .locked => .error .freeWithoutUnlock
  | .lock acquired =>
    match s with
    | .freed => .error .lockWithoutInit
    | .idle => .ok ⟨if acquired then .locked else .idle, 0⟩
    | .locked => .error .doubleLock
  | .unlock =>
    match s with
    | .freed => .error .unlockWithoutInit
    | .idle => .error .unlockWithoutLock
    | .locked => .ok ⟨.idle, 0⟩

/-- The effect of an operation on a handle with byte `b`.  Only initialisation is legal on
a corrupted byte. -/
def transition (b : UInt8) : Operation → Except Violation Change
  | .init => .ok ⟨.idle, 1⟩
  | op =>
    match LockState.ofByte? b with
    | none => .error (.corruptedState b)
    | some s => s.transition op

@[simp]
theorem transition_init (b : UInt8) :
  transition b .init = .ok ⟨.idle, 1⟩
  := rfl

/-- The effects of an operation on the handles with the bytes from `first` to `last`. -/
def transitions (first last : UInt8) (op : Operation) : List (Except Violation Change) :=
  (List.range' first.toNat (last.toNat + 1 - first.toNat)).map fun n =>
    transition (UInt8.ofNat n) op

/-- On the byte of a state the effect is that on the state. -/
@[simp]
theorem transition_byte (s : LockState) (op : Operation) :
  transition s.byte op = s.transition op
  := by
  cases op <;> simp [transition, LockState.transition]

/-- A byte together with the number of live handles. -/
structure Standing where
  byte : UInt8
  live : Int
  deriving DecidableEq, Repr

namespace Standing

/-- The standing after a legal operation, or the violation. -/
def attempt (s : Standing) (op : Operation) : Except Violation Standing :=
  (transition s.byte op).map fun c => ⟨c.next.byte, s.live + c.delta⟩

/-- The standing after an operation; a violation changes nothing. -/
def after (s : Standing) (op : Operation) : Standing :=
  match s.attempt op with
  | .ok t => t
  | .error _ => s

/-- What each of a list of operations leads to, one after another. -/
def trace (s : Standing) : List Operation → List (Except Violation Standing)
  | [] => []
  | op :: ops => s.attempt op :: (s.after op).trace ops

/-- The standing after a list of operations. -/
def run (s : Standing) (ops : List Operation) : Standing := ops.foldl after s

end Standing

end LockDiscipline
