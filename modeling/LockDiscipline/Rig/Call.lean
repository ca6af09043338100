import LockDiscipline.Rig.Observation

/-!
# Mutex calls

A primitive serves calls by what it is made of.  A bare one does the work; a decorator
passes the call to the primitive inside, and tells its monitor after `init` and `lock`, and
before `free` and `unlock`.  A context passes the call to its primitive in turn, and tells
its hook, if it has one, at the same times.  Both hand on the answer from inside as it is.

A native lock of a handle whose platform lock is taken would never return, and is not made:
nobody is told of it.
-/

namespace LockDiscipline

/-- What a call is answered that was served with the status `s`. -/
def Call.reply : Call → Status → Reply
  | .init, _ | .free, _ => .done
  | .lock, s | .unlock, s => .status s

namespace Rig

variable {σ : Type}

/-- Whether a call of a primitive on handle `m` would wait for a platform lock that is
taken. -/
def blocks (r : Rig σ) (p : Primitive) (m : Nat) (c : Call) : Bool :=
  c = .lock && p.kind = .native && (r.handle m).locked

/-- What the bare primitive at the bottom of `p` does when `o` makes a call. -/
def serveBare (o : Owner) (p : Primitive) (m : Nat) (c : Call) (r : Rig σ) :
    Status × Rig σ :=
  match p.kind with
  | .scripted =>
    let (s, q) := (r.script p.bottom).serve c
    (s, r.setScript p.bottom q)
  | .native =>
    match c with
    | .init | .free => (.ok, r)
    | .lock => (.ok, r.setHandle m ((r.handle m).nativeLock o))
    | .unlock =>
      let (s, h) := (r.handle m).nativeUnlock o
      (s, r.setHandle m h)

variable [Sink σ]

/-- `o` makes a call on handle `m` of a primitive itself. -/
def callDirectly (R : Responder σ) (o : Owner) (p : Primitive) (m : Nat) (c : Call)
    (r : Rig σ) : Reply × Rig σ :=
  match p with
  | .bare n k =>
    if r.blocks (.bare n k) m c then (.wouldBlock, r)
    else
      let (s, r) := r.serveBare o (.bare n k) m c
      (c.reply s, r)
  | .instrumented inner i _ =>
    match c with
    | .init =>
      let (a, r) := r.callDirectly R o inner m .init
      (a, r.observe R i .init m)
    | .free => (r.observe R i .free m).callDirectly R o inner m .free
    | .lock =>
      match r.callDirectly R o inner m .lock with
      | (.status s, r) => (.status s, r.observe R i (.lock s.succeeded) m)
      | unanswered => unanswered
    | .unlock => (r.observe R i .unlock m).callDirectly R o inner m .unlock

/-- A hook, if there is one, is told of a call on handle `m`. -/
def notifyHook (R : Responder σ) (n : Notice) (m : Nat) (hook : Option Observer)
    (r : Rig σ) : Rig σ :=
  match hook with
  | some a => r.notify R n m a
  | none => r

/-- `o` makes a call on handle `m` of a primitive with a hook beside it. -/
def callHooked (R : Responder σ) (o : Owner) (p : Primitive) (hook : Option Observer)
    (m : Nat) (c : Call) (r : Rig σ) : Reply × Rig σ :=
  match c with
  | .init =>
    let (a, r) := r.callDirectly R o p m .init
    (a, r.notifyHook R .initialised m hook)
  | .free => (r.notifyHook R .freeing m hook).callDirectly R o p m .free
  | .lock =>
    match r.callDirectly R o p m .lock with
    | (.status s, r) => (.status s, r.notifyHook R (.locked s) m hook)
    | unanswered => unanswered
  | .unlock => (r.notifyHook R .unlocking m hook).callDirectly R o p m .unlock

/-- `o` makes a call on handle `m` through context `x`, with the primitive and the hook that the
context has when the call begins. -/
def call (R : Responder σ) (o : Owner) (x : Nat) (m : Nat) (c : Call) (r : Rig σ) :
    Reply × Rig σ :=
  r.callHooked R o (r.context x).primitive (r.context x).hook m c

end Rig

end LockDiscipline
