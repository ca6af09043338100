import Mathlib.Tactic.Choose
import LockDiscipline.Proofs.Discipline.Detection
import LockDiscipline.Proofs.Lifecycle.Nesting
import LockDiscipline.Proofs.Lifecycle.Steadiness

/-!
# Restoration of a context

Monitors are enabled on one context and disabled again, while the library is used
(`Rig.actAll`).  What succeeds of this is a word of brackets for each strategy
(`Rig.brackets`).  If both words are nested, the monitors that are enabled lie above one
another in the two slots of the context (`Rig.Stacked`).  What one act can do is said once
(`Rig.course_act`), so that it preserves this (`Rig.Stacked.act`), and hence all of them do
(`Rig.stacked_actAll`).

A monitor that is enabled has saved what its slot held when it was enabled last
(`Rig.exists_enabling`).  So disabling it puts that back, and when no monitor is enabled any
more the context is what it was (`Rig.actAll_restores`).
-/

namespace LockDiscipline

open Discipline (Request)

/-- What happens while monitors are enabled on a context and disabled. -/
inductive Act where
  | enable (i : Nat)
  | disable (i : Nat)
  | touch (t : Touch)
  deriving DecidableEq, Repr

namespace Rig

variable {σ : Type} {r r' r₀ : Rig σ} {i x : Nat} {s : Strategy} {v : Replaced}

/-! ### Enabling and disabling -/

/-- The strategy of monitor `i`. -/
def strategy (i : Nat) (r : Rig σ) : Strategy := (r.monitor i).settings.strategy

/-- From one rig to the next `v` was put into its slot of context `x`, and `saved` is what
monitor `i` has saved from then on. -/
structure Puts (i x : Nat) (v : Replaced) (saved : Option Replaced) (r r' : Rig σ) : Prop where
  context : r'.context = r.context.set x ((r.context x).put v)
  replaced : ∀ j, (r'.monitor j).replaced = if j = i then saved else (r.monitor j).replaced
  settings : ∀ j, (r'.monitor j).settings = (r.monitor j).settings

theorem Puts.of_set {y : Monitor} {saved : Option Replaced}
    (context : r'.context = r.context.set x ((r.context x).put v))
    (monitor : r'.monitor = r.monitor.set i y) (replaced : y.replaced = saved)
    (settings : y.settings = (r.monitor i).settings) :
  Puts i x v saved r r'
  := by
  refine ⟨context, ?_, ?_⟩
  all_goals
    intro j
    rw [monitor]
    by_cases here : j = i
    · subst here
      simp [replaced, settings]
    · simp [here]

/-- A monitor that can be enabled takes the slot of its strategy, and saves what it held. -/
theorem enable_of_inactive (x : Nat) (inactive : (r.monitor i).replaced = none) :
  (r.enable i x).1 = .ok ∧ ∃ v, v.strategy = r.strategy i
    ∧ Puts i x v (some ((r.context x).slot (r.strategy i))) r (r.enable i x).2
  := by
  cases strategy : r.strategy i with
  | substitute =>
    rw [enable_of_substitute inactive strategy]
    exact ⟨rfl, .primitive _, rfl, .of_set rfl rfl rfl rfl⟩
  | hooks =>
    rw [enable_of_hooks inactive strategy]
    exact ⟨rfl, .hook _, rfl, .of_set rfl rfl rfl rfl⟩

/-- A monitor that is enabled already cannot be enabled. -/
theorem enable_of_active (x : Nat) (active : (r.monitor i).replaced ≠ none) :
  r.enable i x = (.refused .alreadyActive, r)
  := by
  obtain ⟨old, replaced⟩ := Option.ne_none_iff_exists'.mp active
  rw [enable, replaced]

/-- A monitor that can be disabled puts back what it has saved. -/
theorem disable_of_replaced (x : Nat) (replaced : (r.monitor i).replaced = some v) :
  (r.disable i x).1 = .ok ∧ Puts i x v none r (r.disable i x).2
  := by
  rw [disable, replaced]
  cases v with
  | primitive p => exact ⟨rfl, .of_set rfl rfl rfl rfl⟩
  | hook h => exact ⟨rfl, .of_set rfl rfl rfl rfl⟩

/-- A monitor that is not enabled cannot be disabled. -/
theorem disable_of_inactive (x : Nat) (inactive : (r.monitor i).replaced = none) :
  r.disable i x = (.refused .notActive, r)
  := by rw [disable, inactive]

/-! ### Brackets -/

/-- The bracket that an act amounts to among those of strategy `s`, if it succeeds. -/
def bracket? (s : Strategy) (x : Nat) (r : Rig σ) : Act → Option Bracket
  | .enable i =>
    if r.strategy i = s ∧ (r.enable i x).1 = .ok then some (.opens i) else none
  | .disable i =>
    if r.strategy i = s ∧ (r.disable i x).1 = .ok then some (.closes i) else none
  | .touch _ => none

/-- Only a monitor that is not enabled opens a bracket. -/
theorem inactive_of_opens {a : Act} (opened : r.bracket? s x a = some (.opens i)) :
  a = .enable i ∧ (r.monitor i).replaced = none
  := by
  cases a with
  | enable j =>
    rw [bracket?] at opened
    split at opened
    · next succeeded =>
      obtain rfl := Bracket.opens.inj (Option.some.inj opened)
      use rfl
      by_contra active
      rw [enable_of_active x active] at succeeded
      cases succeeded.2
    · cases opened
  | disable j =>
    rw [bracket?] at opened
    split at opened
    · cases opened
    · cases opened
  | touch t => cases opened

/-! ### Stacked monitors -/

/-- On context `x` the monitors `layers s` lie above one another in the slot of each strategy
`s`, and below them is what there was in `r₀`.  Other contexts are as they were. -/
structure Stacked (x : Nat) (r₀ r : Rig σ) (layers : Strategy → List Nat) : Prop where
  layered : ∀ s, Layered ((r₀.context x).slot s) (fun i => (r.monitor i).replaced) (layers s)
    ((r.context x).slot s)
  elsewhere : ∀ y, y ≠ x → r.context y = r₀.context y

namespace Stacked

variable {layers layers' : Strategy → List Nat}

theorem refl (x : Nat) (r : Rig σ) :
  Stacked x r r fun _ => []
  := ⟨fun _ => .bottom, fun _ _ => rfl⟩

/-- A monitor that lies in a slot has saved what belongs there. -/
theorem of_mem (h : Stacked x r₀ r layers) (mem : i ∈ layers s) :
  ∃ old, (r.monitor i).replaced = some old ∧ old.strategy = s
  := by
  obtain ⟨old, replaced, strategy⟩ := (h.layered s).of_mem mem
  use old, replaced
  rw [strategy, Context.strategy_slot]

/-- What leaves contexts and the saved parts leaves monitors stacked. -/
theorem congr (h : Stacked x r₀ r layers) (same : r'.installation = r.installation) :
  Stacked x r₀ r' layers
  := by
  obtain ⟨context, monitor⟩ := Prod.mk.inj same
  constructor
  case layered =>
    intro s
    rw [context]
    exact (h.layered s).congr fun i _ => congrArg Prod.snd (congrFun monitor i)
  case elsewhere =>
    rw [context]
    exact h.elsewhere

theorem elsewhere_puts {saved : Option Replaced} (h : Stacked x r₀ r layers)
    (puts : Puts i x v saved r r') :
  ∀ y, y ≠ x → r'.context y = r₀.context y
  := by
  intro y other
  rw [puts.context, Family.set_of_ne _ _ other, h.elsewhere y other]

/-- A monitor that is enabled becomes the topmost layer of its slot. -/
theorem push (h : Stacked x r₀ r layers) (inactive : (r.monitor i).replaced = none)
    (puts : Puts i x v (some ((r.context x).slot v.strategy)) r r')
    (own : layers' v.strategy = i :: layers v.strategy)
    (others : ∀ s, s ≠ v.strategy → layers' s = layers s) :
  Stacked x r₀ r' layers'
  := by
  have fresh (s : Strategy) : i ∉ layers s := by
    intro mem
    obtain ⟨old, replaced, -⟩ := h.of_mem mem
    cases inactive.symm.trans replaced
  constructor
  case layered =>
    intro s
    have below : Layered ((r₀.context x).slot s) (fun j => (r'.monitor j).replaced) (layers s)
        ((r.context x).slot s) := by
      apply (h.layered s).congr
      intro j mem
      rw [puts.replaced, if_neg (ne_of_mem_of_not_mem mem (fresh s))]
    rw [puts.context, Family.set_self]
    by_cases here : s = v.strategy
    · subst here
      rw [own, Context.slot_put_self]
      apply Layered.layer _ (fresh _) _ below
      · simp only [puts.replaced, if_true]
      · simp
    · rw [others s here, Context.slot_put_of_ne _ here]
      exact below
  case elsewhere => exact h.elsewhere_puts puts

/-- When the topmost layer of a slot is taken off, the slot holds what lay below. -/
theorem pop (h : Stacked x r₀ r layers) (replaced : (r.monitor i).replaced = some v)
    (puts : Puts i x v none r r') (own : layers s = i :: layers' s)
    (others : ∀ s', s' ≠ s → layers' s' = layers s') :
  Stacked x r₀ r' layers'
  := by
  have kind : v.strategy = s := by
    obtain ⟨old, replaced', kind⟩ := h.of_mem (own ▸ List.mem_cons_self)
    obtain rfl := Option.some.inj (replaced.symm.trans replaced')
    exact kind
  subst kind
  constructor
  case layered =>
    intro s
    rw [puts.context, Family.set_self]
    by_cases here : s = v.strategy
    · subst here
      have top := h.layered v.strategy
      rw [own] at top
      rw [Context.slot_put_self]
      cases top with
      | layer saved fresh _ below =>
        obtain rfl := Option.some.inj (replaced.symm.trans saved)
        apply below.congr
        intro j mem
        rw [puts.replaced, if_neg (ne_of_mem_of_not_mem mem fresh)]
    · rw [others s here, Context.slot_put_of_ne _ here]
      apply (h.layered s).congr
      intro j mem
      obtain ⟨old, replaced', kind⟩ := h.of_mem mem
      have apart : j ≠ i := by
        rintro rfl
        obtain rfl := Option.some.inj (replaced.symm.trans replaced')
        exact here kind.symm
      rw [puts.replaced, if_neg apart]
  case elsewhere => exact h.elsewhere_puts puts

end Stacked

/-! ### Acts -/

variable [Sink σ]

/-- The rig after an act on context `x`. -/
def act (R : Responder σ) (x : Nat) (r : Rig σ) : Act → Rig σ
  | .enable i => (r.enable i x).2
  | .disable i => (r.disable i x).2
  | .touch t => (t.perform R r).2

/-- The rig after some acts on context `x`. -/
def actAll (R : Responder σ) (x : Nat) (r : Rig σ) (acts : List Act) : Rig σ :=
  acts.foldl (act R x) r

/-- The brackets of strategy `s` that some acts amount to. -/
def brackets (R : Responder σ) (s : Strategy) (x : Nat) : Rig σ → List Act → List Bracket
  | _, [] => []
  | r, a :: as => (r.bracket? s x a).toList ++ brackets R s x (r.act R x a) as

variable {R : Responder σ} {acts : List Act}

theorem actAll_append (r : Rig σ) (acts acts' : List Act) :
  r.actAll R x (acts ++ acts') = (r.actAll R x acts).actAll R x acts'
  := List.foldl_append

theorem brackets_append (r : Rig σ) (acts acts' : List Act) :
  brackets R s x r (acts ++ acts')
    = brackets R s x r acts ++ brackets R s x (r.actAll R x acts) acts'
  := by
  induction acts generalizing r with
  | nil => rfl
  | cons a acts ih =>
    rw [List.cons_append, brackets, ih, brackets, List.append_assoc]
    rfl

theorem brackets_concat (r : Rig σ) (acts : List Act) (a : Act) :
  brackets R s x r (acts ++ [a])
    = brackets R s x r acts ++ ((r.actAll R x acts).bracket? s x a).toList
  := by rw [brackets_append, brackets, brackets, List.append_nil]

/-- A bracket that opens was made by enabling a monitor that was not enabled. -/
theorem mem_brackets (opened : .opens i ∈ brackets R s x r acts) :
  ∃ pre post, acts = pre ++ .enable i :: post ∧ ((r.actAll R x pre).monitor i).replaced = none
  := by
  induction acts generalizing r with
  | nil => cases opened
  | cons a acts ih =>
    obtain here | later := List.mem_append.mp opened
    · obtain ⟨rfl, inactive⟩ := inactive_of_opens (Option.mem_toList.mp here)
      exact ⟨[], acts, rfl, inactive⟩
    · obtain ⟨pre, post, rfl, inactive⟩ := ih later
      exact ⟨a :: pre, post, rfl, inactive⟩

/-- What act `a` on context `x` comes to: nothing, or a monitor that was not enabled is enabled
and opens a bracket, or one that was is disabled and closes it. -/
inductive Course (x : Nat) (r : Rig σ) : Act → Rig σ → Prop where
  | idle {a : Act} {r' : Rig σ} (none : ∀ s, r.bracket? s x a = none)
      (same : r'.installation = r.installation) :
    Course x r a r'
  | enabled {i : Nat} {v : Replaced} {r' : Rig σ} (inactive : (r.monitor i).replaced = none)
      (kind : v.strategy = r.strategy i)
      (opens : ∀ s, r.bracket? s x (.enable i) = if s = v.strategy then some (.opens i) else none)
      (puts : Puts i x v (some ((r.context x).slot v.strategy)) r r') :
    Course x r (.enable i) r'
  | disabled {i : Nat} {v : Replaced} {r' : Rig σ} (replaced : (r.monitor i).replaced = some v)
      (closes : ∀ s,
        r.bracket? s x (.disable i) = if s = r.strategy i then some (.closes i) else none)
      (puts : Puts i x v none r r') :
    Course x r (.disable i) r'

/-- Every act takes one of these courses. -/
theorem course_act (steady : R.Steady) (x : Nat) (r : Rig σ) (a : Act) :
  Course x r a (r.act R x a)
  := by
  cases a with
  | enable i =>
    cases replaced : (r.monitor i).replaced with
    | none =>
      obtain ⟨ok, v, kind, puts⟩ := enable_of_inactive x replaced
      rw [← kind] at puts
      apply Course.enabled replaced kind _ puts
      intro s
      simp only [bracket?, ok, and_true, kind, eq_comm]
    | some old =>
      have refused : r.enable i x = _ := enable_of_active x (by simp [replaced])
      exact .idle (by simp [bracket?, refused]) (by rw [act, refused])
  | disable i =>
    cases replaced : (r.monitor i).replaced with
    | none =>
      have refused := disable_of_inactive x replaced
      exact .idle (by simp [bracket?, refused]) (by rw [act, refused])
    | some old =>
      obtain ⟨ok, puts⟩ := disable_of_replaced x replaced
      apply Course.disabled replaced _ puts
      intro s
      simp only [bracket?, ok, and_true, eq_comm]
  | touch t => exact .idle (fun _ => rfl) (installation_perform steady r t)

/-- An act leaves monitors stacked if its brackets are those of the layers. -/
theorem Stacked.act {layers layers' : Strategy → List Nat} (h : Stacked x r₀ r layers)
    (steady : R.Steady) (a : Act)
    (walks : ∀ s, Bracket.walk (layers s) (r.bracket? s x a).toList = some (layers' s)) :
  Stacked x r₀ (r.act R x a) layers'
  := by
  have unchanged {s : Strategy} (none : r.bracket? s x a = none) : layers' s = layers s := by
    have walk := walks s
    rw [none] at walk
    exact (Option.some.inj walk).symm
  cases course_act steady x r a with
  | idle none same =>
    obtain rfl : layers' = layers := funext fun s => unchanged (none s)
    exact h.congr same
  | @enabled i v _ inactive kind opens puts =>
    apply h.push inactive puts
    · have walk := walks v.strategy
      rw [opens, if_pos rfl] at walk
      exact (Option.some.inj walk).symm
    · intro s other
      exact unchanged (by rw [opens, if_neg other])
  | @disabled i v _ replaced closes puts =>
    have walk := walks (r.strategy i)
    rw [closes, if_pos rfl] at walk
    apply h.pop replaced puts (Bracket.walk_closes walk)
    intro s other
    exact unchanged (by rw [closes, if_neg other])

/-- While brackets are nested, monitors are stacked. -/
theorem stacked_actAll (steady : R.Steady) (r : Rig σ)
    (nested : ∀ s, Bracket.Nested (brackets R s x r acts)) :
  ∃ layers, (∀ s, Bracket.walk [] (brackets R s x r acts) = some (layers s))
    ∧ Stacked x r (r.actAll R x acts) layers
  := by
  induction acts using List.reverseRecOn with
  | nil =>
    use fun _ => [], fun _ => rfl
    apply Stacked.refl
  | append_singleton acts a ih =>
    simp only [brackets_concat] at nested
    obtain ⟨layers, walks, stacked⟩ := ih fun s => (nested s).of_append
    choose layers' walks' using fun s => (nested s).walk
    use layers'
    constructor
    · simpa only [brackets_concat] using walks'
    · rw [actAll_append]
      apply stacked.act steady a
      intro s
      have walk := walks' s
      rwa [Bracket.walk_append, walks s] at walk

/-! ### What an enabled monitor has saved -/

/-- After `before` monitor `i` is not enabled; then it is, and remains so during `between`. -/
def Spans (R : Responder σ) (i x : Nat) (r : Rig σ) (before between : List Act) : Prop :=
  ((r.actAll R x before).monitor i).active = false
    ∧ ∀ pre, pre <+: between →
      ((r.actAll R x (before ++ .enable i :: pre)).monitor i).active = true

theorem settings_act (steady : R.Steady) (r : Rig σ) (a : Act) (i : Nat) :
  ((r.act R x a).monitor i).settings = (r.monitor i).settings
  := by
  cases course_act steady x r a with
  | idle _ same => exact congrArg Prod.fst (congrFun (congrArg Prod.snd same) i)
  | enabled _ _ _ puts => apply puts.settings
  | disabled _ _ puts => apply puts.settings

theorem strategy_actAll (steady : R.Steady) (r : Rig σ) (acts : List Act) (i : Nat) :
  (r.actAll R x acts).strategy i = r.strategy i
  := by
  induction acts generalizing r with
  | nil => rfl
  | cons a acts ih =>
    apply (ih _).trans
    rw [strategy, settings_act steady, strategy]

/-- What a monitor has saved changes when it is enabled, and is gone when it is disabled. -/
theorem replaced_act (steady : R.Steady) (r : Rig σ) (a : Act) (i : Nat) :
  ((r.act R x a).monitor i).replaced = (r.monitor i).replaced
    ∨ ((r.act R x a).monitor i).replaced = none
    ∨ a = .enable i ∧ (r.monitor i).replaced = none
      ∧ ((r.act R x a).monitor i).replaced = some ((r.context x).slot (r.strategy i))
  := by
  cases course_act steady x r a with
  | idle _ same =>
    exact .inl (congrArg Prod.snd (congrFun (congrArg Prod.snd same) i))
  | @enabled j v _ inactive kind _ puts =>
    have saved := puts.replaced i
    by_cases here : i = j
    · subst here
      rw [if_pos rfl, kind] at saved
      exact .inr (.inr ⟨rfl, inactive, saved⟩)
    · rw [if_neg here] at saved
      exact .inl saved
  | @disabled j _ _ _ _ puts =>
    have saved := puts.replaced i
    by_cases here : i = j
    · rw [if_pos here] at saved
      exact .inr (.inl saved)
    · rw [if_neg here] at saved
      exact .inl saved

/-- A monitor that has become enabled has saved what its slot held just before it was enabled
last. -/
theorem exists_enabling (steady : R.Steady) (r : Rig σ) (inactive : (r.monitor i).replaced = none)
    (replaced : ((r.actAll R x acts).monitor i).replaced = some v) :
  ∃ before between, acts = before ++ .enable i :: between ∧ Spans R i x r before between
    ∧ v = ((r.actAll R x before).context x).slot (r.strategy i)
  := by
  induction acts using List.reverseRecOn with
  | nil => cases inactive.symm.trans replaced
  | append_singleton acts a ih =>
    have active : ((r.actAll R x (acts ++ [a])).monitor i).active = true := by
      rw [Monitor.active, replaced, Option.isSome_some]
    have last := replaced
    rw [actAll_append] at last
    obtain same | gone | ⟨rfl, free, saved⟩ := replaced_act steady (r.actAll R x acts) a i
    · obtain ⟨before, between, rfl, ⟨start, during⟩, slot⟩ := ih (same.symm.trans last)
      refine ⟨before, between ++ [a], by simp, ⟨start, ?_⟩, slot⟩
      intro pre initial
      obtain rfl | initial := List.prefix_concat_iff.mp initial
      · simpa using active
      · exact during pre initial
    · cases gone.symm.trans last
    · refine ⟨acts, [], rfl, ⟨?_, ?_⟩, ?_⟩
      · rw [Monitor.active, free, Option.isSome_none]
      · intro pre initial
        rw [List.prefix_nil.mp initial]
        exact active
      · rw [← strategy_actAll steady r acts]
        exact Option.some.inj (last.symm.trans saved)

/-- In particular this holds of a monitor whose bracket was opened. -/
theorem exists_enabling_of_opens (steady : R.Steady) (opened : .opens i ∈ brackets R s x r acts)
    (replaced : ((r.actAll R x acts).monitor i).replaced = some v) :
  ∃ before between, acts = before ++ .enable i :: between ∧ Spans R i x r before between
    ∧ v = ((r.actAll R x before).context x).slot (r.strategy i)
  := by
  obtain ⟨pre, post, rfl, inactive⟩ := mem_brackets opened
  rw [actAll_append] at replaced
  obtain ⟨before, between, split, spans, slot⟩ :=
    exists_enabling steady (r.actAll R x pre) inactive replaced
  rw [strategy_actAll steady, ← actAll_append] at slot
  refine ⟨pre ++ before, between, ?_, ?_, slot⟩
  · rw [split, List.append_assoc]
  · simpa only [Spans, List.append_assoc, actAll_append] using spans

/-! ### Disabling -/

/-- A monitor that is disabled in a nested way puts back what its slot held just before it was
enabled, and leaves the other slot. -/
theorem disable_restores (steady : R.Steady) (r : Rig σ)
    (active : ((r.actAll R x acts).monitor i).active = true)
    (nested : Bracket.Nested (brackets R (r.strategy i) x r (acts ++ [.disable i]))) :
  let now := r.actAll R x acts
  let after := now.disable i x
  after.1 = .ok
    ∧ (∃ before between, acts = before ++ .enable i :: between ∧ Spans R i x r before between
      ∧ (after.2.context x).slot (r.strategy i)
        = ((r.actAll R x before).context x).slot (r.strategy i))
    ∧ ∀ s, s ≠ r.strategy i → (after.2.context x).slot s = (now.context x).slot s
  := by
  intro now after
  obtain ⟨old, replaced⟩ := Option.isSome_iff_exists.mp active
  obtain ⟨ok, puts⟩ := disable_of_replaced x replaced
  have closes : now.bracket? (r.strategy i) x (.disable i) = some (.closes i) := by
    rw [bracket?, if_pos ⟨strategy_actAll steady r acts i, ok⟩]
  obtain ⟨pending, walk⟩ := nested.walk
  rw [brackets_concat, closes, Bracket.walk_append] at walk
  obtain ⟨layers, first, last⟩ := Option.bind_eq_some_iff.mp walk
  have top : i ∈ layers := Bracket.walk_closes last ▸ List.mem_cons_self
  obtain ⟨before, between, split, spans, slot⟩ :=
    exists_enabling_of_opens steady (Bracket.opens_mem_of_walk first top) replaced
  have kind : old.strategy = r.strategy i := by rw [slot, Context.strategy_slot]
  refine ⟨ok, ⟨before, between, split, spans, ?_⟩, ?_⟩
  · rw [puts.context, Family.set_self, ← slot, ← kind, Context.slot_put_self]
  · intro s other
    rw [puts.context, Family.set_self, Context.slot_put_of_ne _ (kind ▸ other)]

/-- When the monitors that were enabled are not enabled any more, contexts are what they
were. -/
theorem context_of_ended (steady : R.Steady) (r : Rig σ)
    (nested : ∀ s, Bracket.Nested (brackets R s x r acts))
    (ended : ∀ i, .enable i ∈ acts → ((r.actAll R x acts).monitor i).active = false) :
  (r.actAll R x acts).context = r.context
  := by
  obtain ⟨layers, walks, stacked⟩ := stacked_actAll steady r nested
  have bottom (s : Strategy) : layers s = [] := by
    apply List.eq_nil_iff_forall_not_mem.mpr
    intro i mem
    obtain ⟨pre, post, split, -⟩ := mem_brackets (Bracket.opens_mem_of_walk (walks s) mem)
    obtain ⟨old, replaced, -⟩ := stacked.of_mem mem
    have inactive := ended i (by simp [split])
    rw [Monitor.active, replaced] at inactive
    cases inactive
  funext y
  by_cases here : y = x
  · subst here
    apply Context.eq_of_slot
    intro s
    have layered := stacked.layered s
    rw [bottom] at layered
    exact layered.eq_bottom
  · exact stacked.elsewhere y here

/-- Disabling undoes enabling, as long as monitors of either strategy are enabled and disabled
in a nested way.  Enabling a monitor twice, or disabling one that is not enabled, is refused and
changes nothing.  A monitor that is disabled puts back what its slot held just before it was
enabled, and leaves the other slot.  When no monitor is enabled any more the contexts are what
they were, and calls change only those who observed the context before, and bytes only if these
have a monitor among them. -/
theorem actAll_restores (steady : R.Steady) (x : Nat) (r : Rig σ) (acts : List Act)
    (nested : ∀ s, Bracket.Nested (brackets R s x r acts)) :
  let now := r.actAll R x acts
  (∀ i, (now.monitor i).active = true → now.enable i x = (.refused .alreadyActive, now))
    ∧ (∀ i, (now.monitor i).active = false → now.disable i x = (.refused .notActive, now))
    ∧ (∀ i, (now.monitor i).active = true →
      (∀ s, Bracket.Nested (brackets R s x r (acts ++ [.disable i]))) →
      let after := now.disable i x
      after.1 = .ok
        ∧ (∃ before between, acts = before ++ .enable i :: between ∧ Spans R i x r before between
          ∧ (after.2.context x).slot (r.strategy i)
            = ((r.actAll R x before).context x).slot (r.strategy i))
        ∧ ∀ s, s ≠ r.strategy i → (after.2.context x).slot s = (now.context x).slot s)
    ∧ ((∀ i, .enable i ∈ acts → (now.monitor i).active = false) →
      now.context = r.context
        ∧ ∀ qs : List Request,
          (∀ j, .monitor j ∈ (r.context x).observers → R.Quiet (now.monitor j).sink) →
          Spares (r.context x).observers now
            (Touch.performAll R now (qs.map (Request.touch x))).2)
  := by
  intro now
  refine ⟨?_, ?_, ?_, ?_⟩
  · intro i active
    apply enable_of_active
    exact Option.isSome_iff_ne_none.mp active
  · intro i inactive
    apply disable_of_inactive
    exact Option.isNone_iff_eq_none.mp (Option.isSome_eq_false_iff.mp inactive)
  · intro i active nested'
    exact disable_restores steady r active (nested' (r.strategy i))
  · intro ended
    have context : now.context = r.context := context_of_ended steady r nested ended
    use context
    intro qs quiet
    have spares := Spares.performAll (R := R) (r := now) (x := x)
    rw [context] at spares
    exact spares quiet qs

/-- A rig with a recorder for a hook.  The monitors with even numbers take the place of
primitives, the others of hooks. -/
def scaffold : Rig CaseRecord where
  handle _ := {}
  script _ := {}
  context _ := { primitive := .bare 0 .scripted, hook := some (.recorder 0) }
  monitor i := { sink := 0, settings := { strategy := if i % 2 = 0 then .substitute else .hooks } }
  sink _ := .fresh
  slot _ := {}
  primitives := []
  started := 0
  transcript := []

/-- A family of probes that free a handle when they are told of a violation. -/
def meddler : Family Probe
  | _, .record => [.call (.worker 1) 0 1 .free]
  | _, _ => []

/-- Monitors of both strategies are enabled and disabled, and those of different strategies
cross.  In between a handle is locked that was never initialised, a monitor is enabled twice and
another one disabled that is not enabled. -/
def works : List Act :=
  [.enable 0, .enable 1, .touch (.call (.worker 0) 0 0 .lock), .enable 2, .enable 0, .disable 3,
    .enable 3, .disable 2, .disable 0, .disable 3, .disable 1]

/-- The second of the monitors that take the place of primitives puts the decorator of the first
back, and in the end the context is what it was. -/
theorem actAll_restores_works :
  let R : Responder CaseRecord := probed meddler 1
  (∀ s, Bracket.Nested (brackets R s 0 scaffold works))
    ∧ (∀ s, Bracket.Nested (brackets R s 0 scaffold (works.take 7)))
    ∧ (∀ s, Bracket.Nested (brackets R s 0 scaffold (works.take 7 ++ [.disable 2])))
    ∧ (∃ before between, works.take 7 = before ++ .enable 2 :: between
      ∧ (((scaffold.actAll R 0 (works.take 7)).disable 2 0).2.context 0).slot .substitute
        = ((scaffold.actAll R 0 before).context 0).slot .substitute
      ∧ ((scaffold.actAll R 0 before).context 0).slot .substitute
        = .primitive (.instrumented (.bare 0 .scripted) 0 0))
    ∧ (scaffold.actAll R 0 works).context = scaffold.context
    ∧ ∀ qs : List Request, (Touch.performAll R (scaffold.actAll R 0 works)
      (qs.map (Request.touch 0))).2.monitor = (scaffold.actAll R 0 works).monitor
  := by
  intro R
  have steady : R.Steady := steady_probed meddler 1
  have single (i : Nat) : Bracket.Balanced [.opens i, .closes i] := .pair .nil .nil
  have all : ∀ s, Bracket.Nested (brackets R s 0 scaffold works) := by
    intro s
    use []
    cases s with
    | substitute =>
      have pairs : brackets R .substitute 0 scaffold works
          = [.opens 0, .opens 2, .closes 2, .closes 0] := by decide +kernel
      rw [pairs]
      exact (single 2).pair .nil
    | hooks =>
      have pairs : brackets R .hooks 0 scaffold works
          = [.opens 1, .opens 3, .closes 3, .closes 1] := by decide +kernel
      rw [pairs]
      exact (single 3).pair .nil
  have early (n : Nat) (s : Strategy) :
      Bracket.Nested (brackets R s 0 scaffold (works.take n)) := by
    have nested := all s
    rw [← List.take_append_drop n works, brackets_append] at nested
    exact nested.of_append
  obtain ⟨-, -, restores, -⟩ := actAll_restores steady 0 scaffold (works.take 7) (early 7)
  obtain ⟨-, -, -, ended⟩ := actAll_restores steady 0 scaffold works all
  obtain ⟨context, later⟩ := ended (by
    intro i mem
    obtain rfl | rfl | rfl | rfl : i = 0 ∨ i = 1 ∨ i = 2 ∨ i = 3 := by
      simp only [works, List.mem_cons, Act.enable.injEq, reduceCtorEq, List.not_mem_nil,
        or_false, false_or] at mem
      omega
    all_goals
      decide +kernel)
  refine ⟨all, early 7, early 8, ?_, context, ?_⟩
  · obtain ⟨-, ⟨before, between, split, -, slot⟩, -⟩ := restores 2 (by decide +kernel) (early 8)
    use before, between, split, slot
    apply slot.symm.trans
    decide +kernel
  · intro qs
    have spares := later qs (by
      intro j mem
      cases List.mem_singleton.mp mem)
    funext i
    apply spares.monitor
    intro mem
    cases List.mem_singleton.mp mem

end Rig

end LockDiscipline
