import LockDiscipline.Primitive

/-!
# Contexts

A `Context` is what library code calls through: a primitive, and perhaps a hook.  The hook
and the decorators of the primitive are its `Observer`s.  After `init` and `lock` they are
told from the innermost to the hook, and before `free` and `unlock` in the opposite order.
-/

namespace LockDiscipline

/-- Somebody who is told of calls: a monitor, or a recorder that only writes down what it
sees. -/
inductive Observer where
  | monitor (i : Nat)
  | recorder (i : Nat)
  deriving DecidableEq, Repr

/-- What an observer is told: that a handle was initialised, is about to be freed, was
locked with a status, or is about to be unlocked. -/
inductive Notice where
  | initialised
  | freeing
  | locked (s : Status)
  | unlocking
  deriving DecidableEq, Repr

namespace Notice

/-- The operation that a notice tells of. -/
def operation : Notice → Operation
  | initialised => .init
  | freeing => .free
  | locked s => .lock s.succeeded
  | unlocking => .unlock

/-- The name of a notice in reports. -/
def name : Notice → String
  | initialised => "post_init"
  | freeing => "pre_free"
  | locked _ => "post_lock"
  | unlocking => "pre_unlock"

end Notice

/-- What library code calls through. -/
structure Context where
  primitive : Primitive
  hook : Option Observer := none
  deriving DecidableEq, Repr, Inhabited

/-- Those who are told of the calls of a primitive with a hook, from the innermost
decorator to the hook. -/
def Primitive.observers (p : Primitive) (hook : Option Observer) : List Observer :=
  p.monitors.map .monitor ++ hook.toList

/-- Those who are told of the calls of a context. -/
def Context.observers (c : Context) : List Observer := c.primitive.observers c.hook

end LockDiscipline
