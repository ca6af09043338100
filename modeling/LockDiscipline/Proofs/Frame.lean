import LockDiscipline.Proofs.Installation

/-!
# What calls and checks leave as it is

`Rig.Keeps r r'` says that the contexts of two rigs are the same, and so are their monitors
but for what they have counted.  Mutex calls, checks and calls of sinks keep that much.
-/

namespace LockDiscipline.Rig

variable {r r' r'' : Rig CaseRecord} {i : Nat}

/-- Contexts are as they were, and so are monitors but for their tallies. -/
structure Keeps (r r' : Rig CaseRecord) : Prop where
  context : r'.context = r.context
  monitor : ∀ j, ∃ t : Tally, r'.monitor j = (r.monitor j).adjust fun _ => t

namespace Keeps

/-- Whatever leaves contexts and monitors as they are keeps them. -/
theorem of_eq (context : r'.context = r.context) (monitor : r'.monitor = r.monitor) :
  Keeps r r'
  := by
  use context
  intro j
  use (r.monitor j).tally.value
  rw [monitor]
  rfl

theorem trans (h : Keeps r r') (h' : Keeps r' r'') :
  Keeps r r''
  := by
  use h'.context.trans h.context
  intro j
  obtain ⟨t, eq⟩ := h.monitor j
  obtain ⟨t', eq'⟩ := h'.monitor j
  use t'
  rw [eq', eq]
  rfl

theorem held (h : Keeps r r') (j : Nat) :
  (r'.monitor j).tally.held = (r.monitor j).tally.held
  := by
  obtain ⟨t, eq⟩ := h.monitor j
  rw [eq]
  rfl

theorem sink (h : Keeps r r') (j : Nat) :
  (r'.monitor j).sink = (r.monitor j).sink
  := by
  obtain ⟨t, eq⟩ := h.monitor j
  rw [eq]
  rfl

theorem replaced (h : Keeps r r') (j : Nat) :
  (r'.monitor j).replaced = (r.monitor j).replaced
  := by
  obtain ⟨t, eq⟩ := h.monitor j
  rw [eq]
  rfl

theorem settings (h : Keeps r r') (j : Nat) :
  (r'.monitor j).settings = (r.monitor j).settings
  := by
  obtain ⟨t, eq⟩ := h.monitor j
  rw [eq]
  rfl

/-- A change of a tally keeps the rest. -/
theorem adjust (f : Tally → Tally) (context : r'.context = r.context)
    (monitor : r'.monitor = r.monitor.set i ((r.monitor i).adjust f)) :
  Keeps r r'
  := by
  use context
  intro j
  rw [monitor]
  by_cases here : j = i
  · subst here
    use f (r.monitor j).tally.value
    rw [Family.set_self]
    rfl
  · use (r.monitor j).tally.value
    rw [Family.set_of_ne _ _ here]
    rfl

theorem observe (i : Nat) (op : Operation) (m : Nat) :
  Keeps r (r.observe silent i op m)
  := by
  obtain ⟨c, counted⟩ | ⟨v, reported⟩ | skipped | waits := observe_cases (r := r) i op m
  · rw [counted]
    apply adjust (·.count c.delta)
    · rfl
    · rfl
  · rw [reported, report_eq]
    apply of_eq
    · rfl
    · rfl
  · rw [skipped]
    apply of_eq
    · rfl
    · rfl
  · rw [waits]
    apply of_eq
    · rfl
    · rfl

theorem call (o : Owner) (x m : Nat) (c : Call) :
  Keeps r (r.call silent o x m c).2
  := by
  apply call_of_parts
  case refl => exact fun r => of_eq rfl rfl
  case trans => exact fun _ _ _ => trans
  case bare => exact fun r _ _ => ⟨rfl, (of_eq (r := r) rfl rfl).monitor⟩
  case seen => exact fun r _ _ _ => ⟨rfl, (of_eq (r := r) rfl rfl).monitor⟩
  case observed => exact fun _ => observe

theorem check (i : Nat) :
  Keeps r (r.check silent i).2
  := by
  cases attempt : (r.monitor i).attempt with
  | acquired =>
    rw [check_of_free (Monitor.free_of_attempt attempt), closeCase_eq]
    apply adjust Tally.settle
    · rfl
    · rfl
  | busy =>
    rw [Rig.check, attempt]
    apply of_eq
    · rfl
    · rfl
  | waiting =>
    rw [Rig.check, attempt]
    apply of_eq
    · rfl
    · rfl

theorem tell (s : Nat) (c : SinkCall) :
  Keeps r (r.tell silent s c)
  := of_eq rfl rfl

theorem rebase (i : Nat) :
  Keeps r (r.rebase i)
  := by
  apply adjust Tally.rebase
  · rfl
  · rfl

/-- A test case keeps what its body keeps. -/
theorem runCase {α : Type} {body : Rig CaseRecord → (α × Option Panic) × Rig CaseRecord}
    (keeps : ∀ r, Keeps r (body r).2) (i : Nat) :
  Keeps r (r.runCase silent i body).2
  := by
  apply trans (tell (r.monitor i).sink .reset)
  apply trans (keeps _)
  rw [Rig.runCase]
  generalize body _ = ended
  obtain ⟨⟨a, panic⟩, r'⟩ := ended
  cases panic with
  | none =>
    apply trans (check i)
    apply tell
  | some p =>
    apply trans (tell (r'.monitor i).sink (.fail p.failure))
    apply trans (check i)
    apply tell

end Keeps

/-- A watched context stays so. -/
theorem Watched.kept {x : Nat} (h : r.Watched i x) (keeps : Keeps r r') :
  r'.Watched i x
  := by
  constructor
  · rw [keeps.context, h.observers]
  · rw [keeps.held, h.free]

end LockDiscipline.Rig
