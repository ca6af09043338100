import LockDiscipline.Settings

/-!
# Guards

A `Guard` holds a value behind a lock of its own, which is not a handle and so is seen by
no monitor.  `attempt` says what becomes of a caller: it acquires a free guard, and finds
a held one busy or waits for it, as its policy says.
-/

namespace LockDiscipline

/-- A value behind a lock. -/
structure Guard (α : Type) where
  value : α
  held : Bool := false
  deriving DecidableEq, Repr, Inhabited

namespace Guard

/-- What becomes of a caller that asks for a guard. -/
inductive Attempt where
  | acquired
  | busy
  | waiting
  deriving DecidableEq, Repr

variable {α : Type}

/-- A caller acquires a free guard.  It gives up on a held one if its policy is to skip,
and waits for it otherwise. -/
def attempt (g : Guard α) (policy : GuardPolicy) : Attempt :=
  if g.held then
    match policy with
    | .block => .waiting
    | .skipWhenBusy => .busy
  else .acquired

/-- The guard while its caller holds it. -/
def hold (g : Guard α) : Guard α := { g with held := true }

/-- The guard after its caller let it go. -/
def release (g : Guard α) : Guard α := { g with held := false }

/-- The guard with its value replaced. -/
def put (g : Guard α) (a : α) : Guard α := { g with value := a }

/-- What can be asked of a guard by the one caller that uses it. -/
inductive Request (α : Type) where
  | acquire (policy : GuardPolicy)
  | set (a : α)
  | release

/-- What a request is answered. -/
inductive Answer (α : Type) where
  | acquired (a : α)
  | gaveUp
  | wouldBlock
  | done
  | notHeld

/-- A request and its answer.  A request that would wait for ever is not made. -/
def serve (g : Guard α) : Request α → Answer α × Guard α
  | .acquire policy =>
    match g.attempt policy with
    | .acquired => (.acquired g.value, g.hold)
    | .busy => (.gaveUp, g)
    | .waiting => (.wouldBlock, g)
  | .set a => if g.held then (.done, g.put a) else (.notHeld, g)
  | .release => if g.held then (.done, g.release) else (.notHeld, g)

/-- The answers to a list of requests. -/
def serveAll (g : Guard α) : List (Request α) → List (Answer α)
  | [] => []
  | r :: rs => (g.serve r).1 :: (g.serve r).2.serveAll rs

end Guard

end LockDiscipline
