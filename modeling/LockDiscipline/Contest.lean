import LockDiscipline.Interleaving
import LockDiscipline.Rig.Threads

/-!
# Contests

A `Contest` is a test case in which threads compete for one handle.  Each thread
initialises a handle of its own, and in every round locks the shared handle, adds one to a
counter by a read and a write, unlocks it, and locks and unlocks its own; at last it frees
its own, unless it leaks it.  The shared handle is initialised before and freed after.
`Contest.play` lets the threads run in the order of a schedule, and `Contest.result` lets
them run one after another.  `Contest.resultBy` also says what happens if the threads cannot
be started.
-/

namespace LockDiscipline

/-- A contest. -/
structure Contest where
  strategy : Strategy
  threads : Nat
  rounds : Nat
  leak : Bool
  deriving DecidableEq, Repr

/-- What a contest leaves. -/
structure Contest.Result where
  verdict : Verdict
  counter : Nat
  tally : Tally
  failure : Option Failure
  transcript : List Effect
  deriving DecidableEq, Repr

namespace Contest

/-- The handle that the threads compete for. -/
def shared : Nat := 0

/-- The handle of thread `i`. -/
def own (i : Nat) : Nat := i + 1

/-- The owner that sets the contest up. -/
def referee : Owner := .worker 0

/-- The moves of one round of thread `i`. -/
def round (os : List Observer) (i : Nat) : List Move :=
  Call.lock.moves os shared ++ [.load, .store] ++ Call.unlock.moves os shared
    ++ Call.lock.moves os (own i) ++ Call.unlock.moves os (own i)

/-- The moves of thread `i`. -/
def program (c : Contest) (os : List Observer) (i : Nat) : List Move :=
  Call.init.moves os (own i) ++ (List.replicate c.rounds (round os i)).flatten
    ++ (if c.leak then [] else Call.free.moves os (own i))

/-- The rig of a contest: a context over a native primitive, and a monitor that blocks and
does not echo. -/
def rig (c : Contest) : Rig CaseRecord where
  handle _ := {}
  script _ := {}
  context _ := { primitive := .bare 0 .native }
  monitor _ := { sink := 0, settings := { strategy := c.strategy, echo := false } }
  sink _ := .fresh
  slot _ := {}
  primitives := [.bare 0 .native]
  started := 0
  transcript := []

/-- The threads of a contest, each before its first move. -/
def machine (c : Contest) (r : Rig CaseRecord) : Machine CaseRecord where
  rig := r
  thread i := if i < c.threads then { todo := c.program (r.context 0).observers i } else {}

/-- The schedule in which the threads run one after another. -/
def inTurn (c : Contest) (os : List Observer) : List Nat :=
  (List.range c.threads).flatMap fun i => List.replicate (c.program os i).length i

/-- The threads of a contest after moving in the order of a schedule, the shared handle
having been initialised. -/
def race (c : Contest) (schedule : List Nat) (r : Rig CaseRecord) : Machine CaseRecord :=
  (c.machine (r.call silent referee 0 shared .init).2).run silent schedule

/-- The body of the test case, when the threads move in the order of a schedule; the
answer is the counter. -/
def body (c : Contest) (schedule : List Nat) (r : Rig CaseRecord) :
    (Nat × Option Panic) × Rig CaseRecord :=
  let k := c.race schedule r
  ((k.counter, none), (k.rig.call silent referee 0 shared .free).2)

/-- The rig when the monitor has been enabled and has its baseline. -/
def opened (c : Contest) : Rig CaseRecord := (c.rig.enable 0 0).2.rebase 0

/-- The result of a contest whose test case has the given body. -/
def resultOf (c : Contest) (body : Rig CaseRecord → (Nat × Option Panic) × Rig CaseRecord) :
    Result :=
  let ((verdict, counter), r) := c.opened.runCase silent 0 body
  let (_, r) := r.disable 0 0
  { verdict := verdict
    counter := counter
    tally := (r.monitor 0).tally.value
    failure := (r.sink 0).failure
    transcript := r.transcript }

/-- Plays a contest in the order of a schedule. -/
def play (c : Contest) (schedule : List Nat) : Result := c.resultOf (c.body schedule)

/-- The result of a contest whose threads run one after another. -/
def result (c : Contest) : Result := c.play (c.inTurn (c.opened.context 0).observers)

/-! ### Threads that do not start -/

/-- The body when the first start of a thread panics. -/
def abandoned (p : Panic) (r : Rig CaseRecord) : (Nat × Option Panic) × Rig CaseRecord :=
  ((0, some p), (r.call silent referee 0 shared .init).2)

/-- The body when every start of a thread is answered by the given status. -/
def deserted (c : Contest) (s : ThreadStatus) (r : Rig CaseRecord) :
    (Nat × Option Panic) × Rig CaseRecord :=
  let (_, r) := r.call silent referee 0 shared .init
  let r := (List.replicate c.threads (spawnEvent? s)).foldl Rig.log? r
  ((0, none), (r.call silent referee 0 shared .free).2)

/-- The result of a contest whose threads are started by the given launcher, and then run
one after another. -/
def resultBy (c : Contest) (l : Launcher) : Result :=
  match l.start l.platform (some ⟨0, .returned⟩) {} with
  | .error p => if c.threads = 0 then c.result else c.resultOf (abandoned p)
  | .ok launch =>
    if launch.running.isSome then c.result else c.resultOf (c.deserted launch.status)

end Contest

end LockDiscipline
