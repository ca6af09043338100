/-!
# Handles

A `Handle` is what library code locks: a platform lock, the owner recorded by whoever
took it, and a state byte.  The byte encodes a `LockState` when it is `0`, `1` or `2`;
every other byte is a corrupted state.  The platform lock and the byte are independent:
locking and unlocking change the first two components only, and `mark` the byte only.
-/

namespace LockDiscipline

/-- Where a handle stands in its life. -/
inductive LockState where
  | freed
  | idle
  | locked
  deriving DecidableEq, Repr, Inhabited

namespace LockState

/-- The byte that encodes a state; zeroed memory is a freed handle. -/
def byte : LockState → UInt8
  | freed => 0
  | idle => 1
  | locked => 2

/-- The state that a byte encodes, if any. -/
def ofByte? (b : UInt8) : Option LockState :=
  if b = 0 then some freed
  else if b = 1 then some idle
  else if b = 2 then some locked
  else none

/-- The name of a state in reports. -/
def name : LockState → String
  | freed => "FREED"
  | idle => "IDLE"
  | locked => "LOCKED"

@[simp]
theorem ofByte?_byte (s : LockState) :
  ofByte? s.byte = some s
  := by cases s <;> rfl

/-- A byte encodes `s` exactly when it is the byte of `s`. -/
theorem ofByte?_eq_some_iff {b : UInt8} {s : LockState} :
  ofByte? b = some s ↔ b = s.byte
  := by
  constructor
  · intro h
    rw [ofByte?] at h
    split at h
    · obtain rfl := Option.some.inj h; assumption
    · split at h
      · obtain rfl := Option.some.inj h; assumption
      · split at h
        · obtain rfl := Option.some.inj h; assumption
        · cases h
  · rintro rfl
    exact ofByte?_byte s

end LockState

/-- Who acts on a handle: a worker known by its number, or the thread that was started
as the `n`-th one. -/
inductive Owner where
  | worker (n : Nat)
  | started (n : Nat)
  deriving DecidableEq, Repr

/-- A handle.  The owner is absent while nobody has claimed the platform lock. -/
structure Handle where
  byte : UInt8 := 0
  locked : Bool := false
  owner : Option Owner := none
  deriving DecidableEq, Repr, Inhabited

namespace Handle

/-- A handle over memory that holds the byte `b`; its platform lock is free. -/
def ofByte (b : UInt8) : Handle := { byte := b }

/-- The state that the byte of a handle encodes, if any. -/
def state? (h : Handle) : Option LockState := LockState.ofByte? h.byte

/-- The handle with its byte set to encode `s`. -/
def mark (h : Handle) (s : LockState) : Handle := { h with byte := s.byte }

/-- The handle with its platform lock taken. -/
def acquire (h : Handle) : Handle := { h with locked := true }

/-- The handle with `o` recorded as its owner. -/
def claim (h : Handle) (o : Owner) : Handle := { h with owner := some o }

/-- The handle with its owner cleared, if `o` is the owner. -/
def disown? (h : Handle) (o : Owner) : Option Handle :=
  if h.owner = some o then some { h with owner := none } else none

/-- The handle with its platform lock free. -/
def release (h : Handle) : Handle := { h with locked := false }

/-- The handle as one line of text. -/
def text (h : Handle) : String :=
  "ThreadingMutex \x7b state: " ++ toString h.byte.toNat ++ ", locked: "
    ++ (if h.locked then "true" else "false") ++ " \x7d"

@[simp]
theorem state?_mark (h : Handle) (s : LockState) :
  (h.mark s).state? = some s
  := LockState.ofByte?_byte s

end Handle

end LockDiscipline
