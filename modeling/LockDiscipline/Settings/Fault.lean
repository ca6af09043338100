import LockDiscipline.Json.Token
import LockDiscipline.Settings
import LockDiscipline.Text.Quoted

/-!
# Faults of settings

Why a text cannot be read as settings: it ends too early, it is not JSON, or it is JSON that
does not fit.  `Misfit.message` says what does not fit.
-/

namespace LockDiscipline

/-- A field of the settings. -/
inductive Settings.Field where
  | guardPolicy
  | strategy
  | echo
  deriving DecidableEq, Repr

namespace Settings.Field

/-- The name of a field. -/
def name : Field → String
  | guardPolicy => "guard_policy"
  | strategy => "strategy"
  | echo => "echo_to_stdout"

/-- The field of a given name. -/
def ofName? (s : String) : Option Field :=
  if s = "guard_policy" then some guardPolicy
  else if s = "strategy" then some strategy
  else if s = "echo_to_stdout" then some echo
  else none

/-- The names that a field may take as its value. -/
def variants : Field → List String
  | guardPolicy => [GuardPolicy.block.name, GuardPolicy.skipWhenBusy.name]
  | strategy => [Strategy.substitute.name, Strategy.hooks.name]
  | echo => []

end Settings.Field

/-- What was found where something else was expected. -/
inductive Found where
  | null
  | boolean (b : Bool)
  | number (n : Json.Number)
  | text (s : String)
  | sequence
  | map
  deriving DecidableEq, Repr

/-- What was expected. -/
inductive Expected where
  | settings
  | boolean
  | unit
  deriving DecidableEq, Repr

/-- Why JSON does not fit the settings. -/
inductive Misfit where
  | wrongType (found : Found) (expected : Expected)
  | unknownVariant (f : Settings.Field) (name : String)
  | duplicateField (f : Settings.Field)
  deriving DecidableEq, Repr

/-- Why a text cannot be read as settings. -/
inductive Fault where
  | lapse (l : Json.Lapse)
  | misfit (m : Misfit)
  deriving DecidableEq, Repr

/-- A text between backticks. -/
def ticked (s : String) : String := "`" ++ s ++ "`"

namespace Found

/-- The description of what was found. -/
def description : Found → String
  | null => "null"
  | boolean b => "boolean " ++ ticked (if b then "true" else "false")
  | number (.integer n) => "integer " ++ ticked (toString n)
  | number (.decimal d) => "floating point " ++ ticked d.text
  | text s => "string " ++ Text.quote s
  | sequence => "sequence"
  | map => "map"

end Found

namespace Expected

/-- The description of what was expected. -/
def description : Expected → String
  | settings => "struct MutexUsageConfig"
  | boolean => "a boolean"
  | unit => "unit"

end Expected

namespace Misfit

/-- What does not fit, for people to read. -/
def message : Misfit → String
  | wrongType found expected =>
    "invalid type: " ++ found.description ++ ", expected " ++ expected.description
  | unknownVariant f name =>
    "unknown variant " ++ ticked name ++ ", expected "
      ++ String.intercalate " or " (f.variants.map ticked)
  | duplicateField f => "duplicate field " ++ ticked f.name

end Misfit

end LockDiscipline
