import LockDiscipline.Rig.Lifecycle

/-!
# Interleavings

Threads that run at once over native primitives.  A call is a list of `Move`s, each of which
happens without interruption; a `Machine` is a rig, a counter that the threads share, and
what each thread has left to do.  `Machine.run` lets the threads move in the order of a
schedule.  A thread that waits for a platform lock, or has nothing left to do, does not move.

The moves of a call that nobody interrupts amount to the call: taking and claiming the
platform lock is `Handle.nativeLock`, disowning and releasing it is `Handle.nativeUnlock`,
and observers are told in the order in which the layers of a call tell them.
-/

namespace LockDiscipline

/-- Something that a thread does without interruption. -/
inductive Move where
  /-- Takes the platform lock of a handle, once it is free. -/
  | acquire (m : Nat)
  /-- Records the thread as the owner. -/
  | claim (m : Nat)
  /-- Clears the owner if it is the thread; otherwise the unlock is refused and over. -/
  | disown (m : Nat)
  /-- Lets the platform lock go. -/
  | release (m : Nat)
  /-- Tells an observer. -/
  | notify (n : Notice) (m : Nat) (o : Observer)
  /-- Reads the shared counter. -/
  | load
  /-- Writes the number read last, increased by one, to the shared counter. -/
  | store
  deriving DecidableEq, Repr

/-- The moves of a call on handle `m` of a native primitive, with those who are told. -/
def Call.moves (os : List Observer) (m : Nat) : Call → List Move
  | init => os.map (.notify .initialised m)
  | free => os.reverse.map (.notify .freeing m)
  | lock => .acquire m :: .claim m :: os.map (.notify (.locked .ok) m)
  | unlock => os.reverse.map (.notify .unlocking m) ++ [.disown m, .release m]

/-- What a thread has left to do, the number it read last, and the statuses that its locks
and unlocks were answered. -/
structure Thread where
  todo : List Move := []
  register : Nat := 0
  statuses : List Status := []
  deriving DecidableEq, Repr, Inhabited

/-- Threads that run at once. -/
structure Machine (σ : Type) where
  rig : Rig σ
  thread : Family Thread
  counter : Nat := 0

namespace Machine

variable {σ : Type}

/-- The machine with thread `i` replaced. -/
def setThread (k : Machine σ) (i : Nat) (t : Thread) : Machine σ :=
  { k with thread := k.thread.set i t }

/-- The machine with handle `m` replaced. -/
def setHandle (k : Machine σ) (m : Nat) (h : Handle) : Machine σ :=
  { k with rig := k.rig.setHandle m h }

variable [Sink σ]

/-- Thread `i` makes its next move, if it has one and need not wait. -/
def step? (R : Responder σ) (i : Nat) (k : Machine σ) : Option (Machine σ) :=
  let t := k.thread i
  match t.todo with
  | [] => none
  | move :: rest =>
    let next : Thread := { t with todo := rest }
    match move with
    | .acquire m =>
      if (k.rig.handle m).locked then none
      else some ((k.setHandle m (k.rig.handle m).acquire).setThread i next)
    | .claim m =>
      some ((k.setHandle m ((k.rig.handle m).claim (.started i))).setThread i
        { next with statuses := t.statuses ++ [.ok] })
    | .disown m =>
      match (k.rig.handle m).disown? (.started i) with
      | some h => some ((k.setHandle m h).setThread i next)
      | none =>
        some (k.setThread i
          { next with todo := rest.drop 1, statuses := t.statuses ++ [.refused .lockFailure] })
    | .release m =>
      some ((k.setHandle m (k.rig.handle m).release).setThread i
        { next with statuses := t.statuses ++ [.ok] })
    | .notify n m o => some ({ k with rig := k.rig.notify R n m o }.setThread i next)
    | .load => some (k.setThread i { next with register := k.counter })
    | .store => some ({ k with counter := t.register + 1 }.setThread i next)

/-- Thread `i` moves if it can. -/
def step (R : Responder σ) (k : Machine σ) (i : Nat) : Machine σ := (k.step? R i).getD k

/-- The threads move in the order of a schedule. -/
def run (R : Responder σ) (schedule : List Nat) (k : Machine σ) : Machine σ :=
  schedule.foldl (step R) k

/-- Whether none of the first `n` threads has anything left to do. -/
def finished (n : Nat) (k : Machine σ) : Bool :=
  (List.range n).all fun i => (k.thread i).todo.isEmpty

end Machine

end LockDiscipline
