import LockDiscipline.Status
import LockDiscipline.Transition

/-!
# Primitives

A `Primitive` is what makes calls happen.  At its bottom is a bare primitive, either native,
which takes the platform lock of a handle, or scripted, which leaves the handle alone and
answers from a `Script`; around it are decorators, each of which tells a monitor of every
call.  Two primitives that behave alike can be told apart: a bare one has a name, and a
decorator its place among those of its monitor.
-/

namespace LockDiscipline

/-- What library code asks for. -/
inductive Call where
  | init
  | free
  | lock
  | unlock
  deriving DecidableEq, Repr

/-- A call as it was served, with the status that a lock or unlock was answered. -/
inductive ServedCall where
  | init
  | free
  | lock (s : Status)
  | unlock (s : Status)
  deriving DecidableEq, Repr

/-- The state of a scripted primitive: the statuses it will answer, and the calls it has
served. -/
structure Script where
  lockResults : List Status := []
  unlockResults : List Status := []
  calls : List ServedCall := []
  deriving DecidableEq, Repr, Inhabited

namespace Script

/-- The script with `s` as the last of the queued answers to `lock`. -/
def pushLock (q : Script) (s : Status) : Script :=
  { q with lockResults := q.lockResults ++ [s] }

/-- The script with `s` as the last of the queued answers to `unlock`. -/
def pushUnlock (q : Script) (s : Status) : Script :=
  { q with unlockResults := q.unlockResults ++ [s] }

/-- The script with no calls served; the queues are kept. -/
def clearCalls (q : Script) : Script := { q with calls := [] }

/-- The script with one more call served. -/
def note (q : Script) (c : ServedCall) : Script := { q with calls := q.calls ++ [c] }

/-- The next answer of a queue and the rest of it; an empty queue answers success. -/
def next : List Status → Status × List Status
  | [] => (.ok, [])
  | s :: queue => (s, queue)

/-- The status that a call is answered, and the script afterwards. -/
def serve (q : Script) : Call → Status × Script
  | .init => (.ok, q.note .init)
  | .free => (.ok, q.note .free)
  | .lock =>
    let (s, queue) := next q.lockResults
    (s, { q with lockResults := queue }.note (.lock s))
  | .unlock =>
    let (s, queue) := next q.unlockResults
    (s, { q with unlockResults := queue }.note (.unlock s))

end Script

/-- The two kinds of bare primitives. -/
inductive Primitive.Kind where
  | native
  | scripted
  deriving DecidableEq, Repr

/-- A primitive.  A decorator, the `serial`-th of the given monitor, tells the monitor of
the calls that it passes to the primitive inside. -/
inductive Primitive where
  | bare (name : Nat) (kind : Primitive.Kind)
  | instrumented (inner : Primitive) (monitor serial : Nat)
  deriving DecidableEq, Repr

namespace Primitive

instance : Inhabited Primitive := ⟨.bare 0 .native⟩

/-- The kind of the bare primitive at the bottom. -/
def kind : Primitive → Kind
  | bare _ k => k
  | instrumented inner _ _ => inner.kind

/-- The name of the bare primitive at the bottom. -/
def bottom : Primitive → Nat
  | bare n _ => n
  | instrumented inner _ _ => inner.bottom

/-- The monitors of the decorators, from the innermost to the outermost. -/
def monitors : Primitive → List Nat
  | bare _ _ => []
  | instrumented inner i _ => inner.monitors ++ [i]

end Primitive

namespace Handle

/-- What a native lock does to a handle whose platform lock is free: `o` takes it and
records itself as the owner. -/
def nativeLock (h : Handle) (o : Owner) : Handle := h.acquire.claim o

/-- What a native unlock does: the owner clears its claim and then lets the platform lock
go, and everybody else is refused. -/
def nativeUnlock (h : Handle) (o : Owner) : Status × Handle :=
  match h.disown? o with
  | some h' => (.ok, h'.release)
  | none => (.refused .lockFailure, h)

@[simp]
theorem byte_nativeLock (h : Handle) (o : Owner) :
  (h.nativeLock o).byte = h.byte
  := rfl

@[simp]
theorem byte_nativeUnlock (h : Handle) (o : Owner) :
  (h.nativeUnlock o).2.byte = h.byte
  := by
  rw [nativeUnlock, disown?]
  by_cases owned : h.owner = some o
  · simp [owned, release]
  · simp [owned]

end Handle

end LockDiscipline
