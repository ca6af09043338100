import Mathlib.Tactic.Use
import LockDiscipline.Monitor

/-!
# Nested brackets and layers

Something that is put in place and taken away again is written as a pair of brackets.  Brackets
are nested if no pairs cross (`Bracket.Nested`); then there is a list of those that are open,
which grows and shrinks at one end (`Bracket.Nested.walk`).

A context has one slot for each strategy, for its primitive and for its hook.  A list of
monitors is layered if each of them has saved what the slot held below it
(`Layered`): then the value at the bottom can be reached by taking one layer off after another.
-/

namespace LockDiscipline

/-- The moment from which a numbered thing is in place, and the moment from which it is no
longer. -/
inductive Bracket where
  | opens (i : Nat)
  | closes (i : Nat)
  deriving DecidableEq, Repr

namespace Bracket

/-- Every bracket that opens is closed, and pairs do not cross. -/
inductive Balanced : List Bracket → Prop
  | nil : Balanced []
  | pair {i : Nat} {inner rest : List Bracket} :
      Balanced inner → Balanced rest → Balanced (opens i :: (inner ++ closes i :: rest))

/-- Pairs do not cross, but some brackets may not be closed yet. -/
def Nested (w : List Bracket) : Prop := ∃ rest, Balanced (w ++ rest)

/-- What is open after one more bracket, the innermost first.  Only the innermost can be
closed. -/
def shift : List Nat → Bracket → Option (List Nat)
  | pending, opens i => some (i :: pending)
  | j :: pending, closes i => if i = j then some pending else none
  | [], closes _ => none

/-- What is open after some more brackets. -/
def walk (pending : List Nat) (w : List Bracket) : Option (List Nat) := w.foldlM shift pending

variable {i : Nat} {pending pending' : List Nat} {w : List Bracket}

theorem walk_append (pending : List Nat) (w w' : List Bracket) :
  walk pending (w ++ w') = (walk pending w).bind (walk · w')
  := List.foldlM_append

theorem walk_closes (walks : walk pending [closes i] = some pending') :
  pending = i :: pending'
  := by
  cases pending with
  | nil => simp [walk, shift] at walks
  | cons j pending =>
    by_cases same : i = j
    · simp_all [walk, shift]
    · simp [walk, shift, same] at walks

/-- What is open was open before, or was opened. -/
theorem mem_of_walk (walks : walk pending w = some pending') (mem : i ∈ pending') :
  i ∈ pending ∨ opens i ∈ w
  := by
  induction w generalizing pending with
  | nil =>
    obtain rfl := Option.some.inj walks
    exact .inl mem
  | cons b w ih =>
    obtain ⟨next, first, rest⟩ := Option.bind_eq_some_iff.mp walks
    obtain before | opened := ih rest
    · cases b with
      | opens j =>
        obtain rfl := Option.some.inj first
        obtain rfl | before := List.mem_cons.mp before
        · exact .inr List.mem_cons_self
        · exact .inl before
      | closes j =>
        left
        have closed : walk pending [closes j] = some next := by simp [walk, first]
        rw [walk_closes closed]
        exact List.mem_cons_of_mem j before
    · exact .inr (List.mem_cons_of_mem b opened)

/-- If nothing was open at first, what is open was opened. -/
theorem opens_mem_of_walk (walks : walk [] w = some pending) (mem : i ∈ pending) :
  opens i ∈ w
  := by
  obtain before | opened := mem_of_walk walks mem
  · cases before
  · exact opened

/-- After balanced brackets the same are open as before. -/
theorem Balanced.walk (balanced : Balanced w) (pending : List Nat) :
  Bracket.walk pending w = some pending
  := by
  induction balanced generalizing pending with
  | nil => rfl
  | @pair i inner rest _ _ ihInner ihRest =>
    have opened : Bracket.walk pending [opens i] = some (i :: pending) := rfl
    have closed : Bracket.walk (i :: pending) [closes i] = some pending := by
      simp [Bracket.walk, shift]
    have split : opens i :: (inner ++ closes i :: rest)
        = [opens i] ++ (inner ++ ([closes i] ++ rest)) := rfl
    simp only [split, walk_append, opened, Option.bind_some, ihInner, closed, ihRest]

namespace Nested

theorem of_append {w' : List Bracket} (nested : Nested (w ++ w')) :
  Nested w
  := by
  obtain ⟨rest, balanced⟩ := nested
  use w' ++ rest
  rwa [← List.append_assoc]

/-- Nested brackets are closed in the opposite order in which they were opened. -/
theorem walk (nested : Nested w) :
  ∃ pending, Bracket.walk [] w = some pending
  := by
  obtain ⟨rest, balanced⟩ := nested
  have walks := balanced.walk []
  rw [walk_append] at walks
  obtain ⟨pending, first, -⟩ := Option.bind_eq_some_iff.mp walks
  use pending

end Nested

end Bracket

/-! ### Slots -/

/-- The strategy by which a part of a context is replaced. -/
def Replaced.strategy : Replaced → Strategy
  | primitive _ => .substitute
  | hook _ => .hooks

/-- Those who are told of calls by what a slot holds. -/
def Replaced.observers : Replaced → List Observer
  | primitive p => p.monitors.map .monitor
  | hook h => h.toList

namespace Context

/-- The part of a context that a strategy replaces. -/
def slot (c : Context) : Strategy → Replaced
  | .substitute => .primitive c.primitive
  | .hooks => .hook c.hook

/-- The context with one of its parts put in place. -/
def put (c : Context) : Replaced → Context
  | .primitive p => { c with primitive := p }
  | .hook h => { c with hook := h }

@[simp]
theorem strategy_slot (c : Context) (s : Strategy) :
  (c.slot s).strategy = s
  := by cases s <;> rfl

@[simp]
theorem slot_put_self (c : Context) (v : Replaced) :
  (c.put v).slot v.strategy = v
  := by cases v <;> rfl

theorem slot_put_of_ne (c : Context) {v : Replaced} {s : Strategy} (other : s ≠ v.strategy) :
  (c.put v).slot s = c.slot s
  := by
  cases v with
  | primitive p =>
    cases s with
    | substitute => exact absurd rfl other
    | hooks => rfl
  | hook h =>
    cases s with
    | substitute => rfl
    | hooks => exact absurd rfl other

/-- The observers of a context are those of its slots. -/
theorem mem_observers_iff {c : Context} {a : Observer} :
  a ∈ c.observers ↔ ∃ s, a ∈ (c.slot s).observers
  := by
  rw [observers, Primitive.observers, List.mem_append]
  constructor
  · intro mem
    obtain inner | hook := mem
    · exact ⟨.substitute, inner⟩
    · exact ⟨.hooks, hook⟩
  · rintro ⟨s, mem⟩
    cases s with
    | substitute => exact .inl mem
    | hooks => exact .inr mem

/-- A context is made of what its slots hold. -/
theorem eq_of_slot {c c' : Context} (same : ∀ s, c.slot s = c'.slot s) :
  c = c'
  := by
  obtain ⟨p, h⟩ := c
  obtain ⟨p', h'⟩ := c'
  obtain rfl := Replaced.primitive.inj (same .substitute)
  obtain rfl := Replaced.hook.inj (same .hooks)
  rfl

end Context

/-! ### Layers -/

/-- A slot holds `v`, and each of the listed monitors has saved what the slot held below it.
The bottom is what it holds without them. -/
inductive Layered (bottom : Replaced) (saved : Nat → Option Replaced) :
    List Nat → Replaced → Prop
  | bottom : Layered bottom saved [] bottom
  | layer {i : Nat} {below : List Nat} {old v : Replaced} :
      saved i = some old → i ∉ below → old.strategy = v.strategy →
      Layered bottom saved below old → Layered bottom saved (i :: below) v

namespace Layered

variable {bottom v : Replaced} {saved saved' : Nat → Option Replaced} {layers : List Nat} {i : Nat}

theorem eq_bottom (h : Layered bottom saved [] v) :
  v = bottom
  := by
  cases h
  rfl

/-- A layer is an active monitor, and has saved what belongs into the slot. -/
theorem of_mem (h : Layered bottom saved layers v) (mem : i ∈ layers) :
  ∃ old, saved i = some old ∧ old.strategy = v.strategy
  := by
  induction h with
  | bottom => cases mem
  | @layer j below old v save _ same _ ih =>
    obtain rfl | mem := List.mem_cons.mp mem
    · use old
    · obtain ⟨older, save, same'⟩ := ih mem
      use older, save, same'.trans same

/-- Only what the layers have saved matters. -/
theorem congr (h : Layered bottom saved layers v) (same : ∀ i ∈ layers, saved' i = saved i) :
  Layered bottom saved' layers v
  := by
  induction h with
  | bottom => exact .bottom
  | @layer j below old v save fresh kind _ ih =>
    apply layer _ fresh kind (ih fun i mem => same i (List.mem_cons_of_mem j mem))
    rw [same j List.mem_cons_self, save]

end Layered

end LockDiscipline
