import LockDiscipline.Violation
import LockDiscipline.Verdict

/-!
# Sinks

A `Sink` is where verdicts and violations go.  It is known by how it changes when it is
called and by its answers to the two queries; the answers need not be consistent, neither
with each other nor over time.
-/

namespace LockDiscipline

/-- A call of a sink: four commands and two queries. -/
inductive SinkCall where
  | record (v : Violation)
  | clear
  | violation
  | fail (f : Failure)
  | verdict
  | reset
  deriving DecidableEq, Repr

/-- The kind of a call of a sink, without what it carries. -/
inductive SinkCall.Kind where
  | record
  | clear
  | violation
  | fail
  | verdict
  | reset
  deriving DecidableEq, Repr

namespace SinkCall

/-- The kind of a call. -/
def kind : SinkCall → Kind
  | record _ => .record
  | clear => .clear
  | violation => .violation
  | fail _ => .fail
  | verdict => .verdict
  | reset => .reset

/-- The name of a kind of calls in reports. -/
def Kind.name : Kind → String
  | record => "record"
  | clear => "clear"
  | violation => "usage_error"
  | fail => "fail"
  | verdict => "result"
  | reset => "reset"

end SinkCall

/-- A destination of verdicts and violations.  A query is answered from the state before
it, and may change the state as any other call. -/
class Sink (σ : Type) where
  receive : σ → SinkCall → σ
  violation : σ → Option Violation
  verdict : σ → Verdict

end LockDiscipline
