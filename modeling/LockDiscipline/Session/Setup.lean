import LockDiscipline.Session.Entry

/-!
# Setting up a session

A `Setup` lists the objects that a session starts with; `Setup.rig` is the rig of these
objects, and `Setup.run` the entries of a list of steps on it.
-/

namespace LockDiscipline

/-- Where a context has its first primitive from: the primitive of a given name, or a native
one of its own. -/
inductive ContextSource where
  | primitive (name : Nat)
  | ownNative
  deriving DecidableEq, Repr

/-- The objects that a session starts with. -/
structure Setup where
  primitives : List Primitive.Kind
  contexts : List ContextSource
  /-- The sinks, each with its probe if it is one. -/
  sinks : List (Option Probe)
  /-- The monitors, each with the number of its sink, or none if it has one of its own. -/
  monitors : List (Option Nat × Settings)
  handles : List UInt8

namespace Setup

/-- The primitives that are given, each under the name of its place. -/
def bare (s : Setup) : List Primitive :=
  s.primitives.mapIdx fun n kind => .bare n kind

/-- The contexts, and the primitives with those that contexts have of their own. -/
def openContexts (ps : List Primitive) : List ContextSource → List Context × List Primitive
  | [] => ([], ps)
  | .primitive n :: rest =>
    let (cs, all) := openContexts ps rest
    ({ primitive := ps[n]?.getD default } :: cs, all)
  | .ownNative :: rest =>
    let own := Primitive.bare ps.length .native
    let (cs, all) := openContexts (ps ++ [own]) rest
    ({ primitive := own } :: cs, all)

/-- The monitors, when the next free number for a sink is `n`, and that number
afterwards. -/
def openMonitors (n : Nat) : List (Option Nat × Settings) → List Monitor × Nat
  | [] => ([], n)
  | (some s, settings) :: rest =>
    let (ms, n) := openMonitors n rest
    ({ sink := s, settings := settings } :: ms, n)
  | (none, settings) :: rest =>
    let (ms, last) := openMonitors (n + 1) rest
    ({ sink := n, settings := settings } :: ms, last)

/-- The family of the elements of a list, continued by `a`. -/
def family {α : Type} (l : List α) (a : α) : Family α := fun i => l[i]?.getD a

/-- The rig of the objects of a session. -/
def rig (s : Setup) : Rig CaseRecord :=
  let (contexts, primitives) := openContexts s.bare s.contexts
  let (monitors, _) := openMonitors s.sinks.length s.monitors
  { handle := family (s.handles.map Handle.ofByte) default
    script := fun _ => {}
    context := family contexts default
    monitor := family monitors default
    sink := fun _ => .fresh
    slot := fun _ => {}
    primitives := primitives
    started := 0
    transcript := [] }

/-- How much of the rig a session shows. -/
def extent (s : Setup) : Extent where
  handles := s.handles.length
  monitors := s.monitors.length
  sinks := (openMonitors s.sinks.length s.monitors).2
  isProbe i := (s.sinks[i]?.getD none).isSome

/-- What the sinks of a session do when they are called.  Touches are followed as deep as
guards can be held one inside another. -/
def responder (s : Setup) : Responder CaseRecord :=
  probed (fun i => (s.sinks[i]?.getD none).getD Probe.quiet) (s.monitors.length + 1)

/-- The entries of a session, and whether it ended by a panic. -/
def run (s : Setup) (steps : List Step) : List Entry × Bool :=
  let ((reports, panic), _) := Step.performAll s.responder steps s.rig
  ((Report.entries s.extent 0 reports).1, panic.isSome)

end Setup

end LockDiscipline
