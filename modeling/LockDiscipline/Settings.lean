/-!
# Settings

The `Settings` of a monitor: what to do when its guard is busy, how it is put in the way
of the calls, and whether violations are echoed.  `render` writes them as compact JSON.
-/

namespace LockDiscipline

/-- What to do when a guard is held by somebody else. -/
inductive GuardPolicy where
  | block
  | skipWhenBusy
  deriving DecidableEq, Repr, Inhabited

/-- How a monitor comes to see the calls of a context: in place of its primitive, or as
its hook. -/
inductive Strategy where
  | substitute
  | hooks
  deriving DecidableEq, Repr, Inhabited

/-- The name of a policy in settings. -/
def GuardPolicy.name : GuardPolicy → String
  | block => "block"
  | skipWhenBusy => "skip_when_busy"

/-- The policy of a given name. -/
def GuardPolicy.ofName? (s : String) : Option GuardPolicy :=
  if s = "block" then some .block
  else if s = "skip_when_busy" then some .skipWhenBusy
  else none

/-- The name of a strategy in settings. -/
def Strategy.name : Strategy → String
  | substitute => "substitute"
  | hooks => "hooks"

/-- The strategy of a given name. -/
def Strategy.ofName? (s : String) : Option Strategy :=
  if s = "substitute" then some .substitute
  else if s = "hooks" then some .hooks
  else none

/-- The name of a strategy in logs. -/
def Strategy.title : Strategy → String
  | substitute => "Substitute"
  | hooks => "Hooks"

/-- The settings of a monitor. -/
structure Settings where
  guardPolicy : GuardPolicy := .block
  strategy : Strategy := .substitute
  echo : Bool := true
  deriving DecidableEq, Repr, Inhabited

namespace Settings

/-- A single setting with its new value. -/
inductive Update where
  | guardPolicy (p : GuardPolicy)
  | strategy (s : Strategy)
  | echo (b : Bool)
  deriving DecidableEq, Repr

/-- The settings with one of them replaced. -/
def update (s : Settings) : Update → Settings
  | .guardPolicy p => { s with guardPolicy := p }
  | .strategy t => { s with strategy := t }
  | .echo b => { s with echo := b }

/-- The settings as compact JSON. -/
def render (s : Settings) : String :=
  "\x7b\"guard_policy\":\"" ++ s.guardPolicy.name ++ "\",\"strategy\":\"" ++ s.strategy.name
    ++ "\",\"echo_to_stdout\":" ++ (if s.echo then "true" else "false") ++ "\x7d"

end Settings

end LockDiscipline
