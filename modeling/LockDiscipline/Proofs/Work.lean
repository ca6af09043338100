import LockDiscipline.Proofs.Coupling
import LockDiscipline.Proofs.Lifecycle.Nesting
import LockDiscipline.Session.Step

/-!
# Works

A `Work` is one of the things that a user of the library does, whatever the sinks: it enables
monitors and disables them, makes calls, checks, begins and ends test cases, calls sinks, and
changes contexts and scripts.  A test case is a list of works (`Work.case`), so that works of
others can come in between.

A link is a relation between rigs that agree on the objects of a group and that is kept by
changes of these (`Rig.Linked`).  It is kept by works that are about the group
(`Rig.Linked.performAll`).  These are answered alike, except that what a sink is asked may be
answered by each sink in its own way.
-/

namespace LockDiscipline

/-- Something that a user of the library does. -/
inductive Work where
  | enable (monitor context : Nat)
  | disable (monitor context : Nat)
  | call (o : Owner) (context handle : Nat) (c : Call)
  | callDirectly (o : Owner) (p : Primitive) (handle : Nat) (c : Call)
  | notice (monitor handle : Nat) (n : Notice)
  | check (monitor : Nat)
  | rebase (monitor : Nat)
  | openCase (monitor : Nat)
  | closeCase (monitor : Nat) (panic : Option Panic)
  | tell (sink : Nat) (c : SinkCall)
  | substitute (context : Nat) (p : Primitive)
  | setHook (context : Nat) (hook : Option Observer)
  | script (n : Nat) (change : ScriptChange)
  deriving DecidableEq, Repr

namespace Work

/-- What a work is answered. -/
inductive Answer where
  | reply (a : Reply)
  | lifecycle (s : LifecycleStatus)
  | verdict (v : Verdict)
  | primitive (previous : Primitive)
  | hook (previous : Option Observer)
  deriving DecidableEq, Repr

variable {σ : Type} [Sink σ]

/-- What a sink answers when it is called. -/
def ask (x : σ) : SinkCall → Answer
  | .violation => .reply (.pending (Sink.violation x))
  | .verdict => .verdict (Sink.verdict x)
  | _ => .reply .done

/-- Does a work. -/
def perform (R : Responder σ) (r : Rig σ) : Work → Answer × Rig σ
  | enable i x =>
    let (s, r) := r.enable i x
    (.lifecycle s, r)
  | disable i x =>
    let (s, r) := r.disable i x
    (.lifecycle s, r)
  | call o x m c =>
    let (a, r) := r.call R o x m c
    (.reply a, r)
  | callDirectly o p m c =>
    let (a, r) := r.callDirectly R o p m c
    (.reply a, r)
  | notice i m n => (.reply .done, r.observe R i n.operation m)
  | check i =>
    let (v, r) := r.check R i
    (.reply (.pending v), r)
  | rebase i => (.reply .done, r.rebase i)
  | openCase i => (.reply .done, r.tell R (r.monitor i).sink .reset)
  | closeCase i panic =>
    let (v, r) := r.concludeCase R i panic
    (.verdict v, r)
  | tell s c => (ask (r.sink s) c, r.tell R s c)
  | substitute x p => (.primitive (r.context x).primitive, r.substitute x p)
  | setHook x hook => (.hook (r.context x).hook, r.setHook x hook)
  | script n change => (.reply .done, r.setScript n (change.apply (r.script n)))

/-- Does works, one after another. -/
def performAll (R : Responder σ) (r : Rig σ) : List Work → List Answer × Rig σ
  | [] => ([], r)
  | w :: ws =>
    let (a, r) := w.perform R r
    let (as, r) := performAll R r ws
    (a :: as, r)

theorem performAll_cons (R : Responder σ) (r : Rig σ) (w : Work) (ws : List Work) :
  performAll R r (w :: ws) =
    ((w.perform R r).1 :: (performAll R (w.perform R r).2 ws).1,
      (performAll R (w.perform R r).2 ws).2)
  := rfl

theorem performAll_append (R : Responder σ) (r : Rig σ) (ws ws' : List Work) :
  performAll R r (ws ++ ws') =
    ((performAll R r ws).1 ++ (performAll R (performAll R r ws).2 ws').1,
      (performAll R (performAll R r ws).2 ws').2)
  := by
  induction ws generalizing r with
  | nil => rfl
  | cons w ws ih => rw [List.cons_append, performAll_cons, ih, performAll_cons, List.cons_append]

/-- A test case of monitor `i`, with the works of its body and the panic by which it ends. -/
def case (i : Nat) (body : List Work) (panic : Option Panic) : List Work :=
  openCase i :: (body ++ [closeCase i panic])

/-- A test case is run by doing its works. -/
theorem performAll_case (R : Responder σ) (r : Rig σ) (i : Nat) (body : List Work)
    (panic : Option Panic) :
  let run := r.runCase R i fun r =>
    (((performAll R r body).1, panic), (performAll R r body).2)
  performAll R r (case i body panic)
    = (.reply .done :: (run.1.2 ++ [.verdict run.1.1]), run.2)
  := by
  rw [case, performAll_cons, performAll_append]
  rfl

/-- Whether the answer of a work depends on what a sink is asked. -/
def asks : Work → Bool
  | check _ | closeCase _ _ | tell _ .violation | tell _ .verdict => true
  | _ => false

/-- The answers of the works that ask no sink. -/
def settled (ws : List Work) (as : List Answer) : List Answer :=
  ((ws.zip as).filter fun p => !p.1.asks).map Prod.snd

end Work

/-! ### Works of a group -/

namespace Group

variable {G : Group} {c : Context} {v : Replaced}

/-- What a slot holds involves objects of the group only. -/
structure Keeps (G : Group) (v : Replaced) : Prop where
  script : ∀ p, v = .primitive p → p.kind = .scripted → G.script p.bottom
  monitor : ∀ i, .monitor i ∈ v.observers → G.monitor i

theorem Owns.slot (owns : G.Owns c) (s : Strategy) :
  G.Keeps (c.slot s)
  := by
  constructor
  case script =>
    intro p held
    cases s with
    | substitute =>
      obtain rfl := Replaced.primitive.inj held
      exact owns.script
    | hooks => cases held
  case monitor => exact fun i told => owns.monitor i (Context.mem_observers_iff.mpr ⟨s, told⟩)

theorem Owns.put (owns : G.Owns c) (keeps : G.Keeps v) :
  G.Owns (c.put v)
  := by
  constructor
  case script =>
    cases v with
    | primitive p => exact keeps.script p rfl
    | hook h => exact owns.script
  case monitor =>
    intro i told
    obtain ⟨s, told⟩ := Context.mem_observers_iff.mp told
    by_cases here : s = v.strategy
    · subst here
      rw [Context.slot_put_self] at told
      exact keeps.monitor i told
    · rw [Context.slot_put_of_ne _ here] at told
      exact (owns.slot s).monitor i told

theorem keeps_monitor {i : Nat} (mem : G.monitor i) :
  G.Keeps (.hook (some (.monitor i)))
  := by
  refine ⟨nofun, ?_⟩
  intro j told
  obtain rfl := Observer.monitor.inj (List.mem_singleton.mp told)
  exact mem

theorem Keeps.decorate {p : Primitive} (keeps : G.Keeps (.primitive p)) {i : Nat}
    (mem : G.monitor i) (n : Nat) :
  G.Keeps (.primitive (.instrumented p i n))
  := by
  constructor
  case script =>
    intro q held
    obtain rfl := Replaced.primitive.inj held
    exact keeps.script p rfl
  case monitor =>
    intro j told
    simp only [Replaced.observers, Primitive.monitors, List.map_append, List.mem_append] at told
    obtain inner | own := told
    · exact keeps.monitor j inner
    · obtain rfl := Observer.monitor.inj (List.mem_singleton.mp own)
      exact mem

/-- What a monitor refers to belongs to the group. -/
structure Admits (G : Group) (y : Monitor) : Prop where
  sink : G.sink y.sink
  saved : ∀ v, y.replaced = some v → G.Keeps v

/-- The works that are about the group. -/
def Covers (G : Group) : Work → Prop
  | .enable i x | .disable i x => G.monitor i ∧ G.context x
  | .call _ x m _ => G.context x ∧ G.handle m
  | .callDirectly _ p m _ => G.Keeps (.primitive p) ∧ G.handle m
  | .notice i m _ => G.monitor i ∧ G.handle m
  | .check i | .rebase i | .openCase i | .closeCase i _ => G.monitor i
  | .tell s _ => G.sink s
  | .substitute x p => G.context x ∧ G.Keeps (.primitive p)
  | .setHook x hook => G.context x ∧ G.Keeps (.hook hook)
  | .script n _ => G.script n

theorem keeps_all (v : Replaced) :
  all.Keeps v
  := ⟨fun _ _ _ => trivial, fun _ _ => trivial⟩

theorem admits_all (y : Monitor) :
  all.Admits y
  := ⟨trivial, fun v _ => keeps_all v⟩

theorem covers_all (w : Work) :
  all.Covers w
  := by
  cases w with
  | callDirectly o p m c => exact ⟨keeps_all _, trivial⟩
  | substitute x p => exact ⟨trivial, keeps_all _⟩
  | setHook x hook => exact ⟨trivial, keeps_all _⟩
  | enable i x | disable i x | call o x m c | notice i m n => exact ⟨trivial, trivial⟩
  | _ => trivial

end Group

namespace Rig

variable {σ τ : Type} [Sink σ] [Sink τ]

/-- A relation between rigs that agree on the objects of a group, which involve no others, and
that is kept by changes of these. -/
structure Linked (G : Group) (R : Responder σ) (R' : Responder τ) (S : Rig σ → Rig τ → Prop) :
    Prop where
  handle {r : Rig σ} {r' : Rig τ} : S r r' → ∀ m, G.handle m → r'.handle m = r.handle m
  script {r : Rig σ} {r' : Rig τ} : S r r' → ∀ n, G.script n → r'.script n = r.script n
  context {r : Rig σ} {r' : Rig τ} : S r r' → ∀ x, G.context x → r'.context x = r.context x
  monitor {r : Rig σ} {r' : Rig τ} : S r r' → ∀ i, G.monitor i → r'.monitor i = r.monitor i
  owns {r : Rig σ} {r' : Rig τ} : S r r' → ∀ x, G.context x → G.Owns (r.context x)
  admits {r : Rig σ} {r' : Rig τ} : S r r' → ∀ i, G.monitor i → G.Admits (r.monitor i)
  setHandle {r : Rig σ} {r' : Rig τ} :
    S r r' → ∀ m, G.handle m → ∀ a, S (r.setHandle m a) (r'.setHandle m a)
  setScript {r : Rig σ} {r' : Rig τ} :
    S r r' → ∀ n, G.script n → ∀ q, S (r.setScript n q) (r'.setScript n q)
  setContext {r : Rig σ} {r' : Rig τ} :
    S r r' → ∀ x, G.context x → ∀ c, G.Owns c → S (r.setContext x c) (r'.setContext x c)
  setMonitor {r : Rig σ} {r' : Rig τ} : S r r' → ∀ i, G.monitor i → ∀ y : Monitor,
    y.sink = (r.monitor i).sink → (∀ v, y.replaced = some v → G.Keeps v) →
    S (r.setMonitor i y) (r'.setMonitor i y)
  addPrimitive {r : Rig σ} {r' : Rig τ} :
    S r r' → ∀ p, S (r.addPrimitive p) (r'.addPrimitive p)
  emit {r : Rig σ} {r' : Rig τ} : S r r' → ∀ e, S (r.emit e) (r'.emit e)
  address {r : Rig σ} {r' : Rig τ} :
    S r r' → ∀ s, G.sink s → ∀ c, S (r.tell R s c) (r'.tell R' s c)
  stays {r : Rig σ} {r' : Rig τ} : S r r' → ∀ i s, G.monitor i → r.ReportsTo i s → ∀ c,
    (r.tell R s c).ReportsTo i s
  plead {r : Rig σ} {r' : Rig τ} : S r r' → ∀ i s, G.monitor i → r.ReportsTo i s →
    S (r.plead R s) (r'.plead R' s) ∧ (r.plead R s).ReportsTo i s

namespace Linked

variable {G : Group} {R : Responder σ} {R' : Responder τ} {S : Rig σ → Rig τ → Prop} {r : Rig σ}
  {r' : Rig τ}

theorem bond (k : Linked G R R' S) :
  Bond G R R' S
  := by
  have sink {r : Rig σ} {r' : Rig τ} (h : S r r') (i : Nat) (mem : G.monitor i) {s : Nat}
      (reports : r.ReportsTo i s) : G.sink s := reports.sink ▸ (k.admits h i mem).sink
  constructor
  case toCoupling =>
    constructor
    case byte => exact fun h m mem => by rw [k.handle h m mem]
    case like =>
      intro r r' h i mem
      rw [k.monitor h i mem]
      apply Monitor.Like.refl
    case mark =>
      intro r r' h m mem s
      rw [k.handle h m mem]
      exact k.setHandle h m mem _
    case change =>
      intro r r' h i mem c
      obtain ⟨-, saved⟩ := k.admits h i mem
      rw [k.monitor h i mem]
      apply k.setMonitor h i mem
      · cases c with
        | _ => rfl
      · cases c with
        | _ => exact saved
    case emit => exact fun h e _ => k.emit h e
    case tell =>
      intro r r' h i s mem reports c
      exact ⟨k.address h s (sink h i mem reports) c, k.stays h i s mem reports c⟩
    case plead => exact k.plead
  case handle => exact k.handle
  case script => exact k.script
  case setHandle => exact k.setHandle
  case setScript => exact k.setScript
  case akin =>
    intro r r' h x mem
    rw [k.context h x mem]
    exact ⟨rfl, rfl, rfl⟩
  case owns => exact k.owns
  case reports => exact fun h i mem => (k.admits h i mem).sink
  case address => exact k.address

/-! ### Lifecycle -/

theorem put (k : Linked G R R' S) (h : S r r') {x : Nat} (context : G.context x) {v : Replaced}
    (keeps : G.Keeps v) :
  S (r.setContext x ((r.context x).put v)) (r'.setContext x ((r'.context x).put v))
  := by
  rw [k.context h x context]
  exact k.setContext h x context _ ((k.owns h x context).put keeps)

theorem intercept (k : Linked G R R' S) (h : S r r') {i x : Nat} (monitor : G.monitor i)
    (context : G.context x) :
  (r'.intercept i x).1 = (r.intercept i x).1 ∧ S (r.intercept i x).2 (r'.intercept i x).2
    ∧ G.Keeps (r.intercept i x).1
  := by
  have owns := k.owns h x context
  have admits := k.admits h i monitor
  rw [Rig.intercept, Rig.intercept, k.monitor h i monitor, k.context h x context]
  cases (r.monitor i).settings.strategy with
  | substitute =>
    simp only [Rig.decorate, k.monitor h i monitor, true_and]
    have counted : S (r.setMonitor i (r.monitor i).countDecorator)
        (r'.setMonitor i (r.monitor i).countDecorator) :=
      k.setMonitor h i monitor _ rfl admits.saved
    have keeps := (owns.slot .substitute).decorate monitor (r.monitor i).decorators
    exact ⟨k.put (k.addPrimitive counted _) context keeps, owns.slot .substitute⟩
  | hooks => exact ⟨rfl, k.put h context (Group.keeps_monitor monitor), owns.slot .hooks⟩

/-- Monitors of the group are enabled alike. -/
theorem enable (k : Linked G R R' S) (h : S r r') {i x : Nat} (monitor : G.monitor i)
    (context : G.context x) :
  (r'.enable i x).1 = (r.enable i x).1 ∧ S (r.enable i x).2 (r'.enable i x).2
  := by
  rw [Rig.enable, Rig.enable, k.monitor h i monitor]
  cases (r.monitor i).replaced with
  | some old => exact ⟨rfl, h⟩
  | none =>
    obtain ⟨answer, installed, keeps⟩ := k.intercept h monitor context
    generalize r.intercept i x = made at answer installed keeps
    generalize r'.intercept i x = made' at answer installed
    obtain ⟨old, q⟩ := made
    obtain ⟨old', q'⟩ := made'
    obtain rfl : old' = old := answer
    have same : q'.monitor i = q.monitor i := k.monitor installed i monitor
    have saved : S (q.setMonitor i { q.monitor i with replaced := some old' })
        (q'.setMonitor i { q.monitor i with replaced := some old' }) := by
      refine k.setMonitor installed i monitor _ rfl ?_
      rintro v ⟨⟩
      exact keeps
    simp only [same, k.monitor saved i monitor, true_and]
    exact k.emit saved _

/-- Monitors of the group are disabled alike. -/
theorem disable (k : Linked G R R' S) (h : S r r') {i x : Nat} (monitor : G.monitor i)
    (context : G.context x) :
  (r'.disable i x).1 = (r.disable i x).1 ∧ S (r.disable i x).2 (r'.disable i x).2
  := by
  rw [Rig.disable, Rig.disable, k.monitor h i monitor]
  cases replaced : (r.monitor i).replaced with
  | none => exact ⟨rfl, h⟩
  | some old =>
    have forgot : S (r.setMonitor i { r.monitor i with replaced := none })
        (r'.setMonitor i { r.monitor i with replaced := none }) :=
      k.setMonitor h i monitor _ rfl nofun
    have restored := k.put forgot context ((k.admits h i monitor).saved old replaced)
    use rfl
    cases old with
    | primitive p => exact k.emit restored _
    | hook a => exact k.emit restored _

/-! ### Works -/

/-- Works of the group keep a link, and are answered alike unless they ask sinks that are not
alike. -/
theorem perform (k : Linked G R R' S) (h : S r r') {w : Work} (covers : G.Covers w) :
  S (w.perform R r).2 (w.perform R' r').2
    ∧ (w.asks = false ∨ Candid G S → (w.perform R' r').1 = (w.perform R r).1)
  := by
  have sink {i : Nat} (mem : G.monitor i) := (k.admits h i mem).sink
  cases w with
  | enable i x =>
    obtain ⟨answer, enabled⟩ := k.enable h covers.1 covers.2
    exact ⟨enabled, fun _ => congrArg Work.Answer.lifecycle answer⟩
  | disable i x =>
    obtain ⟨answer, disabled⟩ := k.disable h covers.1 covers.2
    exact ⟨disabled, fun _ => congrArg Work.Answer.lifecycle answer⟩
  | call o x m c =>
    obtain ⟨answer, called⟩ := k.bond.call h o covers.1 covers.2 c
    exact ⟨called, fun _ => congrArg Work.Answer.reply answer⟩
  | callDirectly o p m c =>
    have owns : G.Owns ⟨p, none⟩ := by
      refine ⟨covers.1.script p rfl, ?_⟩
      intro i told
      apply covers.1.monitor
      simpa [Context.observers, Primitive.observers, Replaced.observers] using told
    obtain ⟨answer, called⟩ := k.bond.callDirectly h o owns covers.2 c
    exact ⟨called, fun _ => congrArg Work.Answer.reply answer⟩
  | notice i m n => exact ⟨k.bond.observe h covers.1 n.operation covers.2, fun _ => rfl⟩
  | check i =>
    refine ⟨k.bond.check h covers, ?_⟩
    rintro (silent | candid)
    · cases silent
    · exact congrArg (Work.Answer.reply ∘ Reply.pending) (k.bond.answer_check candid h covers)
  | rebase i =>
    have rebased : S (r.adjust i Tally.rebase) (r'.adjust i Tally.rebase) := by
      rw [adjust, adjust, k.monitor h i covers]
      exact k.setMonitor h i covers _ rfl (k.admits h i covers).saved
    refine ⟨?_, fun _ => rfl⟩
    simp only [Work.perform, Rig.rebase, k.monitor h i covers]
    exact k.emit rebased _
  | openCase i =>
    refine ⟨?_, fun _ => rfl⟩
    simp only [Work.perform, k.monitor h i covers]
    exact k.address h _ (sink covers) .reset
  | closeCase i panic =>
    obtain ⟨concluded, answer⟩ := k.bond.concludeCase h (i := i) covers panic
    refine ⟨concluded, ?_⟩
    rintro (silent | candid)
    · cases silent
    · exact congrArg Work.Answer.verdict (answer candid)
  | tell s c =>
    refine ⟨k.address h s covers c, ?_⟩
    rintro (silent | candid)
    · cases c with
      | violation => cases silent
      | verdict => cases silent
      | _ => rfl
    · obtain ⟨violation, verdict⟩ := candid r r' h s covers
      cases c with
      | violation => exact congrArg (Work.Answer.reply ∘ Reply.pending) violation
      | verdict => exact congrArg Work.Answer.verdict verdict
      | _ => rfl
  | substitute x p =>
    refine ⟨k.put h covers.1 covers.2, fun _ => ?_⟩
    simp only [Work.perform, k.context h x covers.1]
  | setHook x hook =>
    refine ⟨k.put h covers.1 covers.2, fun _ => ?_⟩
    simp only [Work.perform, k.context h x covers.1]
  | script n change =>
    refine ⟨?_, fun _ => rfl⟩
    simp only [Work.perform, k.script h n covers]
    exact k.setScript h n covers _

/-- So do any number of works. -/
theorem performAll (k : Linked G R R' S) (h : S r r') {ws : List Work}
    (covers : ∀ w ∈ ws, G.Covers w) :
  S (Work.performAll R r ws).2 (Work.performAll R' r' ws).2
    ∧ Work.settled ws (Work.performAll R' r' ws).1 = Work.settled ws (Work.performAll R r ws).1
  := by
  induction ws generalizing r r' with
  | nil => exact ⟨h, rfl⟩
  | cons w ws ih =>
    obtain ⟨done, answer⟩ := k.perform h (covers w List.mem_cons_self)
    obtain ⟨after, answers⟩ := ih done fun w mem => covers w (List.mem_cons_of_mem _ mem)
    rw [Work.performAll_cons, Work.performAll_cons]
    refine ⟨after, ?_⟩
    cases asks : w.asks with
    | true => simpa [Work.settled, asks] using answers
    | false => simpa [Work.settled, asks, answer (.inl asks)] using answers

end Linked

end Rig

end LockDiscipline
