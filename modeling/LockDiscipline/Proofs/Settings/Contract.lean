import Mathlib.Tactic.FinCases
import LockDiscipline.Proofs.Settings.Documents

/-!
# Readers of settings

A reader of settings is anything that answers texts.  It goes through a text from left to right
and stands at one `Place` after another, which is what was read so far and what is due;
`Reader` gives what it answers to the rest of a text at each of them.

A reader is `Lawful` if it takes JSON as the settings are declared: as an object whose members may
come in any order, each field once, other members being ignored, or as a list of the values of the
fields; with defaults for what is absent, and with variants that are told by their names.  A law
is about one step, such as a bracket, a name or a comma: what the reader makes of it, and where it
stands behind it.  What it makes of a whole text, with ignored values of any depth in it, is not
assumed but follows from the steps.

Writing `Conforms` if settings are written as an object of all their fields, spaced and spelled in
any way.
-/

namespace LockDiscipline

namespace Json

namespace Frame

/-- What is due behind the opening bracket. -/
def first : Frame → Due
  | list => .valueOrEnd
  | object => .nameOrEnd

/-- What is due behind a comma. -/
def next : Frame → Due
  | list => .value
  | object => .name

/-- An element may begin where `due` is due: in a list a value, in an object a name. -/
def Admits (f : Frame) (due : Due) : Prop := due = f.first ∨ due = f.next

end Frame

/-- A value that is neither a list nor an object. -/
inductive Scalar : List Char → Prop where
  | null : Scalar ['n', 'u', 'l', 'l']
  | yes : Scalar ['t', 'r', 'u', 'e']
  | no : Scalar ['f', 'a', 'l', 's', 'e']
  | number {cs : List Char} (number : Numeric cs) : Scalar cs
  | string {cs : List Char} (string : Quotable cs) : Scalar (quoted cs)

end Json

namespace Settings

open Json

/-! ### Steps -/

section

variable {α β : Type} (answer : α → List Char → β)

/-- Whatever follows `cs`, it is answered as it is at `p'`: the text is taken, from `p` to `p'`. -/
def Takes (p : α) (cs : List Char) (p' : α) : Prop :=
  ∀ rest, answer p (cs ++ rest) = answer p' rest

/-- If what follows `cs` delimits it, the text is taken from `p` to `p'`. -/
def Passes (p : α) (cs : List Char) (p' : α) : Prop :=
  ∀ rest, Delimits rest → answer p (cs ++ rest) = answer p' rest

/-- Whatever follows `cs`, the answer is `b`. -/
def Refuses (p : α) (cs : List Char) (b : β) : Prop := ∀ rest, answer p (cs ++ rest) = b

end

/-! ### Laws -/

/-- Where a reader stands. -/
inductive Place where
  | start
  /-- Before a member or a value that sets something; `first` if the document may also end. -/
  | piece (f : Frame) (us : List Update) (first : Bool)
  /-- After a name: that of a field, or one that is ignored. -/
  | colon (us : List Update) (f : Option Field)
  | value (us : List Update) (f : Field)
  /-- After a piece. -/
  | after (f : Frame) (us : List Update)
  /-- Inside the value of a member that is ignored, with the frames around it. -/
  | ignored (us : List Update) (frames : List Frame) (due : Due)
  | done (s : Settings)

/-- The place behind an ignored value inside the given frames. -/
def Place.beyond (us : List Update) : List Frame → Place
  | [] => .after .object us
  | frames => .ignored us frames .separator

/-- What is answered to the rest of a text at each place. -/
abbrev Reader := Place → List Char → Except Fault Settings

namespace Reader

/-- What a reader answers to a text. -/
def read (r : Reader) (text : String) : Except Fault Settings := r .start text.toList

/-- A reader takes JSON as the settings are declared. -/
structure Lawful (r : Reader) : Prop where
  /-- Blanks may stand anywhere. -/
  blanks {w : List Char} (blanks : Blanks w) (p : Place) : Takes r p w p
  /-- Settings are an object or a list. -/
  bracket (f : Frame) : Takes r .start [f.opening] (.piece f [] true)
  /-- A field is told by its name, in any spelling. -/
  name {n : List Char} {f : Field} {us : List Update} (spelled : Spelled n f.name.toList)
    (unset : f ∉ us.map Update.field) (first : Bool) :
    Takes r (.piece .object us first) (quoted n) (.colon us (some f))
  /-- No field comes twice; the second name is reported. -/
  again {n : List Char} {f : Field} {us : List Update} (spelled : Spelled n f.name.toList)
    (set : f ∈ us.map Update.field) (first : Bool) :
    Refuses r (.piece .object us first) (quoted n) (.error (.misfit (.duplicateField f)))
  /-- Other names may come. -/
  stranger {n s : List Char} (spelled : Spelled n s) (unknown : ∀ f : Field, s ≠ f.name.toList)
    (us : List Update) (first : Bool) :
    Takes r (.piece .object us first) (quoted n) (.colon us none)
  /-- A name is followed by a colon. -/
  colon (us : List Update) (f : Field) : Takes r (.colon us (some f)) [':'] (.value us f)
  /-- The value of a field sets it. -/
  value {v : List Char} {u : Update} (denotes : Denotes v u) (us : List Update) :
    Takes r (.value us u.field) v (.after .object (us ++ [u]))
  /-- An unknown variant is reported, by its name without escapes. -/
  variant {v : List Char} {f : Field} {s : String} (named : f ≠ .echo)
    (spelled : Spelled v s.toList) (unknown : s ∉ f.variants) (us : List Update) :
    Refuses r (.value us f) (quoted v) (.error (.misfit (.unknownVariant f s)))
  /-- A list has the values of the fields in order. -/
  item {v : List Char} {u : Update} {us : List Update} {next : List Field}
    (due : us.map Update.field ++ u.field :: next = Field.all) (denotes : Denotes v u)
    (first : Bool) :
    Takes r (.piece .list us first) v (.after .list (us ++ [u]))
  /-- A comma in an object is followed by another member. -/
  comma (us : List Update) : Takes r (.after .object us) [','] (.piece .object us false)
  /-- A comma in a list is followed by the value of the next field, if there is one. -/
  commaItem {us : List Update} {f : Field} {next : List Field}
    (due : us.map Update.field ++ f :: next = Field.all) :
    Takes r (.after .list us) [','] (.piece .list us false)
  /-- An empty document leaves the defaults. -/
  empty (f : Frame) : Takes r (.piece f [] true) [f.closing] (.done {})
  /-- A closing bracket ends the document; absent fields have their defaults. -/
  closing (f : Frame) (us : List Update) :
    Takes r (.after f us) [f.closing] (.done (us.foldl update {}))
  /-- When the text ends, what was read is the answer. -/
  finish (s : Settings) : r (.done s) [] = .ok s
  /-- The value of a member with another name is ignored. -/
  ignore (us : List Update) : Takes r (.colon us none) [':'] (.ignored us [] .value)
  /-- It may be a scalar, even a number that is out of range or half a surrogate pair. -/
  scalar {cs : List Char} {due : Due} (scalar : Scalar cs) (admits : Frame.list.Admits due)
    (us : List Update) (frames : List Frame) :
    Passes r (.ignored us frames due) cs (.beyond us frames)
  /-- It may begin a list or an object, in any depth. -/
  enter {due : Due} (admits : Frame.list.Admits due) (us : List Update) (frames : List Frame)
    (f : Frame) :
    Takes r (.ignored us frames due) [f.opening] (.ignored us (f :: frames) f.first)
  /-- A closing bracket ends the innermost of them, if it matches. -/
  leave {f : Frame} {due : Due} (closable : due = f.first ∨ due = .separator)
    (us : List Update) (frames : List Frame) :
    Takes r (.ignored us (f :: frames) due) [f.closing] (.beyond us frames)
  /-- A comma is followed by another element. -/
  separator (us : List Update) (frames : List Frame) (f : Frame) :
    Takes r (.ignored us (f :: frames) .separator) [','] (.ignored us (f :: frames) f.next)
  /-- In an object an element begins with a name, whatever it is. -/
  label {n : List Char} {due : Due} (name : Quotable n) (admits : Frame.object.Admits due)
    (us : List Update) (frames : List Frame) :
    Takes r (.ignored us (.object :: frames) due) (quoted n)
      (.ignored us (.object :: frames) .colon)
  /-- The name is followed by a colon, and then by a value. -/
  labelColon (us : List Update) (frames : List Frame) :
    Takes r (.ignored us (.object :: frames) .colon) [':']
      (.ignored us (.object :: frames) .value)

end Reader

/-- The updates that make the defaults into the given settings. -/
def updates (s : Settings) : List Update :=
  [.guardPolicy s.guardPolicy, .strategy s.strategy, .echo s.echo]

/-- Settings are written as an object of all their fields. -/
def Conforms (write : Settings → String) : Prop :=
  ∀ s : Settings, Document .object (write s).toList s.updates

/-! ### Texts in a row -/

section

variable {α β : Type} {answer : α → List Char → β} {p p' p'' : α} {cs cs' : List Char}

namespace Takes

theorem passes (h : Takes answer p cs p') :
  Passes answer p cs p'
  := fun rest _ => h rest

theorem append (h : Takes answer p cs p') (h' : Takes answer p' cs' p'') :
  Takes answer p (cs ++ cs') p''
  := fun rest => by rw [List.append_assoc, h, h']

theorem append_passes (h : Takes answer p cs p') (h' : Passes answer p' cs' p'') :
  Passes answer p (cs ++ cs') p''
  := fun rest delimits => by rw [List.append_assoc, h, h' rest delimits]

/-- What is taken may stand before what is refused. -/
theorem append_refuses {b : β} (h : Takes answer p cs p') (h' : Refuses answer p' cs' b) :
  Refuses answer p (cs ++ cs') b
  := fun rest => by rw [List.append_assoc, h, h']

end Takes

/-- What is passed is taken together with a comma or a closing bracket behind it. -/
theorem Passes.append_stop (h : Passes answer p cs p') {c : Char}
    (stop : c ∈ [',', ']', '\x7d']) (h' : Takes answer p' [c] p'') :
  Takes answer p (cs ++ [c]) p''
  := by
  intro rest
  have delimits : Delimits ([c] ++ rest) := by
    rintro _ ⟨⟩
    fin_cases stop
    all_goals decide
  rw [List.append_assoc, h _ delimits, h']

end

/-- Blanks may follow what is passed. -/
theorem Passes.append_blanks {r : Reader} (lawful : r.Lawful) {p p' : Place} {cs w : List Char}
    (h : Passes r p cs p') (blanks : Blanks w) :
  Passes r p (cs ++ w) p'
  := by
  intro rest delimits
  have delimits' : Delimits (w ++ rest) := by
    cases w with
    | nil => exact delimits
    | cons c w =>
      rintro _ ⟨⟩
      have first := blanks c List.mem_cons_self
      fin_cases first
      all_goals decide
  rw [List.append_assoc, h _ delimits', lawful.blanks blanks]

end Settings

end LockDiscipline
