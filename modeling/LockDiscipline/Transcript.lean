import LockDiscipline.Context
import LockDiscipline.Settings
import LockDiscipline.Sink

/-!
# Transcripts

What becomes visible while calls are made is a list of `Effect`s in the order in which
they occur: events in the log, text on standard output, what recorders see, what sinks are
called with, and what the calls made by a sink are answered.
-/

namespace LockDiscipline

/-- What a call is answered: nothing, a status, that it would never return and was not
made, or the violation that was pending. -/
inductive Reply where
  | done
  | status (s : Status)
  | wouldBlock
  | pending (v : Option Violation)
  deriving DecidableEq, Repr

/-- The severity of an event. -/
inductive Level where
  | warn
  | info
  | debug
  deriving DecidableEq, Repr

/-- The name of a severity in the log. -/
def Level.name : Level → String
  | warn => "WARN"
  | info => "INFO"
  | debug => "DEBUG"

/-- An event in the log. -/
inductive Event where
  | violated (v : Violation) (op : Operation)
  | leaked (n : Int)
  | observationSkipped (op : Operation)
  | checkSkipped
  | rebased (baseline : Int)
  | enabled (s : Strategy)
  | disabled
  | spawnFailed
  | threadPanicked
  deriving DecidableEq, Repr

/-- A field of an event holds a number or a text. -/
inductive FieldValue where
  | number (n : Int)
  | text (s : String)
  deriving DecidableEq, Repr

/-- The label under which the checker logs. -/
def logTarget : String := "mutex_usage"

/-- The label under which the thread launcher logs. -/
def threadLogTarget : String := "krepis_mutex_usage::infrastructure::thread"

/-- The text by which a violation is shown. -/
def Violation.notice (v : Violation) : String := "[mutex: " ++ v.tag ++ "]"

/-- The text by which a surplus of live handles is shown. -/
def leakNotice (n : Int) : String := "[mutex: " ++ toString n ++ " leaked]"

namespace Event

/-- How severe an event is: violations and failures of threads are warnings, skipped work
is for debugging. -/
def level : Event → Level
  | violated _ _ | leaked _ | spawnFailed | threadPanicked => .warn
  | observationSkipped _ | checkSkipped => .debug
  | rebased _ | enabled _ | disabled => .info

/-- The label under which an event is logged. -/
def target : Event → String
  | spawnFailed | threadPanicked => threadLogTarget
  | _ => logTarget

/-- The text of an event. -/
def message : Event → String
  | violated v _ => v.notice
  | leaked n => leakNotice n
  | observationSkipped _ => "guard busy, skipping check"
  | checkSkipped => "guard busy, skipping test-case check"
  | rebased _ => "mutex usage baseline set"
  | enabled _ => "🔒 mutex usage verification enabled"
  | disabled => "🔓 mutex usage verification disabled"
  | spawnFailed => "failed to spawn test thread"
  | threadPanicked => "test thread panicked before join"

/-- The fields of an event besides its message. -/
def details : Event → List (String × FieldValue)
  | violated v op => [("kind", .text v.kind), ("op", .text op.name)]
  | leaked n => [("kind", .text "missing_free"), ("leaked", .number n)]
  | observationSkipped op => [("op", .text op.name)]
  | rebased n => [("permanent", .number n)]
  | enabled s => [("strategy", .text s.title)]
  | checkSkipped | disabled | spawnFailed | threadPanicked => []

/-- The fields of an event, its message included. -/
def fields (e : Event) : List (String × FieldValue) :=
  ("message", .text e.message) :: e.details

end Event

/-- Something that becomes visible. -/
inductive Effect where
  | logged (e : Event)
  | echoed (s : String)
  | seen (recorder : Nat) (n : Notice) (byte : UInt8)
  | told (sink : Nat) (c : SinkCall)
  | nested (sink : Nat) (r : Reply)
  deriving DecidableEq, Repr

namespace Effect

/-- The event of a logging effect. -/
def event? : Effect → Option Event
  | logged e => some e
  | _ => none

/-- The text of an echo. -/
def echo? : Effect → Option String
  | echoed s => some s
  | _ => none

end Effect

/-- The events among a list of effects. -/
def events (es : List Effect) : List Event := es.filterMap Effect.event?

/-- The text that a list of effects writes to standard output. -/
def echo (es : List Effect) : String := String.join (es.filterMap Effect.echo?)

end LockDiscipline
