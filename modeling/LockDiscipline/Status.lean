/-!
# Statuses

What calls answer besides the violations that are recorded: the refusals of a lock
primitive (`LockError`), of the thread launcher (`ThreadError`) and of enabling or
disabling a monitor (`LifecycleError`).  Each refusal has a name, a message and, where
the platform defines one, a numeric code.
-/

namespace LockDiscipline

/-- Why a lock primitive refused to lock or unlock. -/
inductive LockError where
  | badInputData
  | lockFailure
  deriving DecidableEq, Repr

/-- Why a thread could not be started or joined. -/
inductive ThreadError where
  | badInputData
  | insufficientMemory
  | threadFailure
  deriving DecidableEq, Repr

/-- Why a monitor could not be enabled or disabled. -/
inductive LifecycleError where
  | alreadyActive
  | notActive
  deriving DecidableEq, Repr

/-- The answer of something that may be refused. -/
inductive Outcome (ε : Type) where
  | ok
  | refused (e : ε)
  deriving DecidableEq, Repr

/-- Whether an outcome is a success. -/
def Outcome.succeeded {ε : Type} : Outcome ε → Bool
  | ok => true
  | refused _ => false

/-- The answer of a lock or unlock. -/
abbrev Status := Outcome LockError

/-- The answer of starting or joining a thread. -/
abbrev ThreadStatus := Outcome ThreadError

/-- The answer of enabling or disabling a monitor. -/
abbrev LifecycleStatus := Outcome LifecycleError

/-- The code of bad input data. -/
def badInputDataCode : Int := -28

/-- The code of a failed lock or unlock. -/
def lockFailureCode : Int := -30

/-- The code of a failed start or join. -/
def threadFailureCode : Int := -31

/-- The code of a thread that found no memory. -/
def insufficientMemoryCode : Int := -141

namespace LockError

/-- The name of a refusal by a lock primitive. -/
def name : LockError → String
  | badInputData => "BadInputData"
  | lockFailure => "MutexFailure"

/-- The message of a refusal by a lock primitive. -/
def message : LockError → String
  | badInputData => "bad input data"
  | lockFailure => "mutex operation failed"

/-- The numeric code of a refusal by a lock primitive. -/
def code : LockError → Int
  | badInputData => badInputDataCode
  | lockFailure => lockFailureCode

end LockError

/-- The code of a status, `0` for success. -/
def Status.code : Status → Int
  | .ok => 0
  | .refused e => e.code

namespace ThreadError

/-- The name of a refusal of the thread launcher. -/
def name : ThreadError → String
  | badInputData => "BadInputData"
  | insufficientMemory => "InsufficientMemory"
  | threadFailure => "ThreadFailure"

/-- The message of a refusal of the thread launcher. -/
def message : ThreadError → String
  | badInputData => "bad input data"
  | insufficientMemory => "insufficient memory to create thread"
  | threadFailure => "thread error"

/-- The numeric code of a refusal of the thread launcher. -/
def code : ThreadError → Int
  | badInputData => badInputDataCode
  | insufficientMemory => insufficientMemoryCode
  | threadFailure => threadFailureCode

end ThreadError

namespace LifecycleError

/-- The name of a refusal to enable or disable. -/
def name : LifecycleError → String
  | alreadyActive => "AlreadyActive"
  | notActive => "NotActive"

/-- The message of a refusal to enable or disable. -/
def message : LifecycleError → String
  | alreadyActive => "mutex usage verification is already active"
  | notActive => "mutex usage verification is not active"

end LifecycleError

end LockDiscipline
