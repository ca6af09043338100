import LockDiscipline.Settings.Fault

/-!
# Reading settings

`Settings.read` reads settings from JSON.  The text is an object whose members with unknown
names are ignored, or a list of the values of the fields in order; absent fields keep their
defaults.  The reader takes one token after another and holds a `State`, so the first token
that cannot be accepted decides the answer, whatever follows it.

This is the reader that runs.  The theorems about reading are about all readers that obey the
same laws.
-/

namespace LockDiscipline

namespace Json

/-- A list or an object that has begun and not ended. -/
inductive Frame where
  | list
  | object
  deriving DecidableEq, Repr

/-- What is due inside a value that is ignored. -/
inductive Due where
  | value
  | valueOrEnd
  | name
  | nameOrEnd
  | colon
  | separator
  deriving DecidableEq, Repr

/-- Where inside an ignored value a reader stands: the frames around it, the innermost
first, and what is due. -/
structure Skim where
  frames : List Frame
  due : Due
  deriving DecidableEq, Repr

namespace Skim

/-- The reader before a value. -/
def start : Skim := ⟨[], .value⟩

/-- The reader after a value inside the given frames; it is done if there are none. -/
def after : List Frame → Option Skim
  | [] => none
  | frames => some ⟨frames, .separator⟩

/-- Takes a token that begins a value. -/
def value (frames : List Frame) : Token → Except Lapse (Option Skim)
  | .null | .boolean _ | .text _ | .badText _ | .number _ | .badNumber _ => .ok (after frames)
  | .beginList => .ok (some ⟨.list :: frames, .valueOrEnd⟩)
  | .beginObject => .ok (some ⟨.object :: frames, .nameOrEnd⟩)
  | .cut => .error .ended
  | _ => .error .malformed

/-- Takes the name of a member. -/
def name (frames : List Frame) : Token → Except Lapse (Option Skim)
  | .text _ | .badText _ => .ok (some ⟨frames, .colon⟩)
  | _ => .error .malformed

/-- Takes what separates values, or ends the innermost frame. -/
def separator : List Frame → Token → Except Lapse (Option Skim)
  | .list :: frames, .comma => .ok (some ⟨.list :: frames, .value⟩)
  | .list :: frames, .endList => .ok (after frames)
  | .object :: frames, .comma => .ok (some ⟨.object :: frames, .name⟩)
  | .object :: frames, .endObject => .ok (after frames)
  | _, _ => .error .malformed

/-- Takes one token; the result is absent when the value is complete. -/
def feed (s : Skim) (t : Token) : Except Lapse (Option Skim) :=
  match s.due with
  | .value => value s.frames t
  | .valueOrEnd => if t = .endList then .ok (after s.frames.tail) else value s.frames t
  | .name => name s.frames t
  | .nameOrEnd => if t = .endObject then .ok (after s.frames.tail) else name s.frames t
  | .colon => if t = .colon then .ok (some ⟨s.frames, .value⟩) else .error .malformed
  | .separator => separator s.frames t

end Skim

end Json

namespace Settings

open Json (Token)

/-- The fields that were read so far. -/
structure Draft where
  guardPolicy : Option GuardPolicy := none
  strategy : Option Strategy := none
  echo : Option Bool := none
  deriving DecidableEq, Repr

namespace Draft

/-- Whether a field was read. -/
def has (d : Draft) : Field → Bool
  | .guardPolicy => d.guardPolicy.isSome
  | .strategy => d.strategy.isSome
  | .echo => d.echo.isSome

/-- The draft with a field set to the value of a given name. -/
def choose? (d : Draft) (f : Field) (s : String) : Option Draft :=
  match f with
  | .guardPolicy => (GuardPolicy.ofName? s).map fun p => { d with guardPolicy := some p }
  | .strategy => (Strategy.ofName? s).map fun t => { d with strategy := some t }
  | .echo => none

/-- The settings of a draft; a field that was not read has its default. -/
def settings (d : Draft) : Settings where
  guardPolicy := d.guardPolicy.getD ({} : Settings).guardPolicy
  strategy := d.strategy.getD ({} : Settings).strategy
  echo := d.echo.getD ({} : Settings).echo

end Draft

/-- What a value stands in: an object, or a list in which the values of the given fields
follow. -/
inductive Within where
  | object
  | list (next : List Field)
  deriving DecidableEq, Repr

/-- Where a reader stands. -/
inductive State where
  | start
  /-- Before the name of a member; `first` if the object may also end. -/
  | name (d : Draft) (first : Bool)
  /-- After a name: that of a field, or one that is ignored. -/
  | colon (d : Draft) (f : Option Field)
  | items
  | value (d : Draft) (f : Field) (w : Within)
  /-- Inside an object that wraps the name of a variant. -/
  | variantName (d : Draft) (f : Field) (w : Within)
  | variantColon (d : Draft) (w : Within)
  | variantUnit (d : Draft) (w : Within)
  | variantEnd (d : Draft) (w : Within)
  /-- After a value. -/
  | separator (d : Draft) (w : Within)
  /-- Inside a value that is ignored. -/
  | ignored (d : Draft) (s : Json.Skim)
  | closed (s : Settings)
  deriving DecidableEq, Repr

/-- The fault of a text that is not JSON. -/
def malformed {α : Type} : Except Fault α := .error (.lapse .malformed)

/-- The fault of a value that is not what was expected. -/
def mismatch {α : Type} (e : Expected) : Token → Except Fault α
  | .null => .error (.misfit (.wrongType .null e))
  | .boolean b => .error (.misfit (.wrongType (.boolean b) e))
  | .number n => .error (.misfit (.wrongType (.number n) e))
  | .text s => .error (.misfit (.wrongType (.text s) e))
  | .beginList => .error (.misfit (.wrongType .sequence e))
  | .beginObject => .error (.misfit (.wrongType .map e))
  | .badNumber l | .badText l => .error (.lapse l)
  | .cut => .error (.lapse .ended)
  | _ => malformed

/-- The draft with a field set to the value of a given name, or the fault. -/
def choose (d : Draft) (f : Field) (s : String) : Except Fault Draft :=
  match d.choose? f s with
  | some d => .ok d
  | none => .error (.misfit (.unknownVariant f s))

namespace State

/-- Takes the value of a field. -/
def feedValue (d : Draft) (f : Field) (w : Within) (t : Token) : Except Fault State :=
  match f, t with
  | .echo, .boolean b => .ok (.separator { d with echo := some b } w)
  | .echo, t => mismatch .boolean t
  | f, .text s => (choose d f s).map (separator · w)
  | _, .badText l => .error (.lapse l)
  | f, .beginObject => .ok (.variantName d f w)
  | _, _ => malformed

/-- Takes the name of a member. -/
def feedName (d : Draft) (t : Token) : Except Fault State :=
  match t with
  | .text s =>
    match Field.ofName? s with
    | none => .ok (.colon d none)
    | some f =>
      if d.has f then .error (.misfit (.duplicateField f)) else .ok (.colon d (some f))
  | .badText l => .error (.lapse l)
  | _ => malformed

/-- Takes what stands after a value. -/
def feedSeparator (d : Draft) (w : Within) (t : Token) : Except Fault State :=
  match w, t with
  | .object, .comma => .ok (.name d false)
  | .object, .endObject => .ok (.closed d.settings)
  | .list (f :: next), .comma => .ok (.value d f (.list next))
  | .list _, .endList => .ok (.closed d.settings)
  | _, _ => malformed

/-- Takes one token. -/
def feed (s : State) (t : Token) : Except Fault State :=
  match s with
  | start =>
    match t with
    | .beginObject => .ok (.name {} true)
    | .beginList => .ok .items
    | t => mismatch .settings t
  | name d first =>
    if first ∧ t = .endObject then .ok (.closed d.settings) else feedName d t
  | colon d f =>
    match f, t with
    | none, .colon => .ok (.ignored d .start)
    | some f, .colon => .ok (.value d f .object)
    | _, _ => malformed
  | items =>
    if t = .endList then .ok (.closed {})
    else feedValue {} .guardPolicy (.list [.strategy, .echo]) t
  | value d f w => feedValue d f w t
  | variantName d f w =>
    match t with
    | .text s => (choose d f s).map (variantColon · w)
    | .badText l => .error (.lapse l)
    | _ => malformed
  | variantColon d w => if t = .colon then .ok (.variantUnit d w) else malformed
  | variantUnit d w => if t = .null then .ok (.variantEnd d w) else mismatch .unit t
  | variantEnd d w => if t = .endObject then .ok (.separator d w) else malformed
  | separator d w => feedSeparator d w t
  | ignored d k =>
    match k.feed t with
    | .error l => .error (.lapse l)
    | .ok none => .ok (.separator d .object)
    | .ok (some k) => .ok (.ignored d k)
  | closed _ => malformed

/-- What was read when no token is left. -/
def finish : State → Except Fault Settings
  | closed s => .ok s
  | _ => .error (.lapse .ended)

end State

/-- The state after a list of tokens. -/
def feedAll (s : State) (ts : List Token) : Except Fault State := ts.foldlM State.feed s

/-- Reads settings from tokens. -/
def ofTokens (ts : List Token) : Except Fault Settings := feedAll .start ts >>= State.finish

/-- Reads settings from a text. -/
def read (text : String) : Except Fault Settings := ofTokens (Json.tokens text.toList)

end Settings

end LockDiscipline
