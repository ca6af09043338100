import LockDiscipline.Proofs.Lifecycle.Steadiness
import LockDiscipline.Proofs.Work

/-!
# Groups of objects that involve no others

A group is closed in a rig if its contexts and monitors refer to objects of the group only
(`Group.Closed`).  What is done about a closed group depends on the objects of the group, and
changes no others.  Both are said at once: a rig that is grafted (`Rig.Grafted`) has the objects
of the group from one rig and all others from another, and stays so when works of the group are
done on it and on the former (`Rig.linked_grafted`).

This needs sinks of the group that are local (`Responder.Local`), so that what they do when they
are called is about the group, too, and lets no guard go.  So are sinks that only change
themselves (`local_silent`), and probes whose touches are about the group (`local_probed`).
-/

namespace LockDiscipline

variable {σ : Type}

/-- `h` is the family `f` at the places in `P`, and `g` elsewhere. -/
def Family.Grafted {α : Type} (P : Nat → Prop) (f g h : Family α) : Prop :=
  ∀ n, (P n → h n = f n) ∧ (¬ P n → h n = g n)

namespace Family.Grafted

variable {α : Type} {P : Nat → Prop} {f g h : Family α} {n : Nat}

theorem set (grafted : Grafted P f g h) (mem : P n) (a : α) :
  Grafted P (f.set n a) g (h.set n a)
  := by
  intro m
  by_cases here : m = n
  · subst here
    exact ⟨fun _ => by rw [set_self, set_self], fun other => absurd mem other⟩
  · rw [set_of_ne _ _ here, set_of_ne _ _ here]
    exact grafted m

end Family.Grafted

/-! ### Closed groups -/

namespace Group

variable {G : Group} {r r' : Rig σ}

/-- The contexts and monitors of the group refer to objects of the group only. -/
structure Closed (G : Group) (r : Rig σ) : Prop where
  owns : ∀ x, G.context x → G.Owns (r.context x)
  admits : ∀ i, G.monitor i → G.Admits (r.monitor i)

theorem Closed.congr (closed : G.Closed r) (context : ∀ x, G.context x → r'.context x = r.context x)
    (monitor : ∀ i, G.monitor i → r'.monitor i = r.monitor i) :
  G.Closed r'
  := by
  constructor
  case owns =>
    intro x mem
    rw [context x mem]
    exact closed.owns x mem
  case admits =>
    intro i mem
    rw [monitor i mem]
    exact closed.admits i mem

end Group

namespace Rig

/-- `r'` has the objects of a closed group from `r` and all others from `q`, and what became
visible after `es` in `r` became visible after `es'` in `r'`. -/
structure Grafted (G : Group) (q : Rig σ) (es es' : List Effect) (r r' : Rig σ) : Prop where
  handle : Family.Grafted G.handle r.handle q.handle r'.handle
  script : Family.Grafted G.script r.script q.script r'.script
  context : Family.Grafted G.context r.context q.context r'.context
  monitor : Family.Grafted G.monitor r.monitor q.monitor r'.monitor
  sink : Family.Grafted G.sink r.sink q.sink r'.sink
  closed : G.Closed r
  visible : ∃ new, r.transcript = es ++ new ∧ r'.transcript = es' ++ new

theorem Grafted.emit {G : Group} {q r r' : Rig σ} {es es' : List Effect}
    (h : Grafted G q es es' r r') (e : Effect) :
  Grafted G q es es' (r.emit e) (r'.emit e)
  := by
  obtain ⟨new, grown, grown'⟩ := h.visible
  refine { h with closed := ⟨h.closed.owns, h.closed.admits⟩, visible := ⟨new ++ [e], ?_, ?_⟩ }
  · rw [Rig.emit, grown, List.append_assoc]
  · rw [Rig.emit, grown', List.append_assoc]

end Rig

/-- Sinks of a group are local if all they do when they are called is about the group, and lets
no guard of it go. -/
structure Responder.Local (G : Group) (R : Responder σ) : Prop where
  keeps {q r r' : Rig σ} {es es' : List Effect} : Rig.Grafted G q es es' r r' →
    ∀ s, G.sink s → ∀ c, Rig.Grafted G q es es' (R s c r) (R s c r')
  stays {r : Rig σ} {i s : Nat} : r.ReportsTo i s → ∀ c, (R s c r).ReportsTo i s

namespace Rig

variable [Sink σ] {G : Group} {R : Responder σ}

/-- Works of a group depend on the group, and change nothing else. -/
theorem linked_grafted (here : R.Local G) (q : Rig σ) (es es' : List Effect) :
  Linked G R R (Grafted G q es es')
  := by
  have address {r r' : Rig σ} (h : Grafted G q es es' r r') (s : Nat) (mem : G.sink s)
      (c : SinkCall) : Grafted G q es es' (r.tell R s c) (r'.tell R s c) := by
    refine here.keeps (Grafted.emit ?_ _) s mem c
    rw [((h.sink s).1 mem)]
    exact { h with closed := ⟨h.closed.owns, h.closed.admits⟩, sink := h.sink.set mem _ }
  have stays {r : Rig σ} {i s : Nat} (reports : r.ReportsTo i s) (c : SinkCall) :
      (r.tell R s c).ReportsTo i s := by
    apply here.stays
    exact ⟨reports.held, reports.sink⟩
  have sink {r r' : Rig σ} (h : Grafted G q es es' r r') {i s : Nat} (mem : G.monitor i)
      (reports : r.ReportsTo i s) : G.sink s := reports.sink ▸ (h.closed.admits i mem).sink
  constructor
  case handle => exact fun h m mem => (h.handle m).1 mem
  case script => exact fun h n mem => (h.script n).1 mem
  case context => exact fun h x mem => (h.context x).1 mem
  case monitor => exact fun h i mem => (h.monitor i).1 mem
  case owns => exact fun h => h.closed.owns
  case admits => exact fun h => h.closed.admits
  case setHandle =>
    intro r r' h m mem a
    exact { h with closed := ⟨h.closed.owns, h.closed.admits⟩, handle := h.handle.set mem a }
  case setScript =>
    intro r r' h n mem p
    exact { h with closed := ⟨h.closed.owns, h.closed.admits⟩, script := h.script.set mem p }
  case setContext =>
    intro r r' h x mem c owns
    refine { h with context := h.context.set mem c, closed := ⟨?_, h.closed.admits⟩ }
    intro y own
    by_cases same : y = x
    · subst same
      simpa [setContext] using owns
    · simpa [setContext, same] using h.closed.owns y own
  case setMonitor =>
    intro r r' h i mem y reports saved
    refine { h with monitor := h.monitor.set mem y, closed := ⟨h.closed.owns, ?_⟩ }
    intro j own
    by_cases same : j = i
    · subst same
      have admits : G.Admits y := ⟨reports ▸ (h.closed.admits j mem).sink, saved⟩
      simpa [setMonitor] using admits
    · simpa [setMonitor, same] using h.closed.admits j own
  case addPrimitive =>
    exact fun h _ => { h with closed := ⟨h.closed.owns, h.closed.admits⟩ }
  case emit => exact Grafted.emit
  case address => exact address
  case stays => exact fun _ _ _ _ reports c => stays reports c
  case plead =>
    intro r r' h i s mem reports
    refine Coupling.plead_of_alike ?_ ?_ h mem reports
    · exact fun h i s mem reports c => ⟨address h s (sink h mem reports) c, stays reports c⟩
    · intro r r' h i s mem reports
      rw [(h.sink s).1 (sink h mem reports)]
      exact ⟨rfl, rfl⟩

theorem candid_grafted (q : Rig σ) (es es' : List Effect) :
  Candid G (Grafted G q es es')
  := by
  intro r r' h s mem
  rw [(h.sink s).1 mem]
  exact ⟨rfl, rfl⟩

end Rig

/-! ### Patient sinks -/

/-- Sinks are patient if they let no guard go that somebody else holds. -/
def Responder.Patient (R : Responder σ) : Prop :=
  ∀ {r : Rig σ} {i t : Nat}, r.ReportsTo i t → ∀ s c, (R s c r).ReportsTo i t

namespace Rig.ReportsTo

variable {r : Rig σ} {i j s : Nat}

theorem setMonitor (reports : r.ReportsTo i s) (other : i ≠ j) (y : Monitor) :
  (r.setMonitor j y).ReportsTo i s
  := by
  have same : (r.setMonitor j y).monitor i = r.monitor i := Family.set_of_ne _ _ other
  exact ⟨by rw [same, reports.held], by rw [same, reports.sink]⟩

theorem adjust (reports : r.ReportsTo i s) (f : Tally → Tally) :
  (r.adjust j f).ReportsTo i s
  := by
  by_cases here : i = j
  · subst here
    constructor
    · simpa [Rig.adjust, Rig.setMonitor, Monitor.adjust, Guard.put] using reports.held
    · simpa [Rig.adjust, Rig.setMonitor, Monitor.adjust] using reports.sink
  · exact reports.setMonitor here _

variable [Sink σ] {R : Responder σ}

theorem tell (patient : R.Patient) (reports : r.ReportsTo i s) (t : Nat) (c : SinkCall) :
  (r.tell R t c).ReportsTo i s
  := by
  apply patient
  exact ⟨reports.held, reports.sink⟩

/-- A guard that is held is not let go by an observation of another monitor, nor by one of the
same, which gives up. -/
theorem observe (patient : R.Patient) (reports : r.ReportsTo i s) (j : Nat) (op : Operation)
    (m : Nat) :
  (r.observe R j op m).ReportsTo i s
  := by
  rw [Rig.observe]
  cases attempt : (r.monitor j).attempt with
  | acquired =>
    have other : i ≠ j := by
      rintro rfl
      cases reports.held.symm.trans (Monitor.free_of_attempt attempt)
    have held := reports.setMonitor other (r.monitor j).hold
    have judged {q : Rig σ} (reports : q.ReportsTo i s) : (q.judge R j op m).ReportsTo i s := by
      rw [judge]
      cases transition (q.handle m).byte op with
      | ok c =>
        have marked : (q.setHandle m ((q.handle m).mark c.next)).ReportsTo i s :=
          ⟨reports.held, reports.sink⟩
        exact marked.adjust (·.count c.delta)
      | error v =>
        have told := reports.tell patient (q.monitor j).sink (.record v)
        have logged :
            ((q.tell R (q.monitor j).sink (.record v)).log (.violated v op)).ReportsTo i s :=
          ⟨told.held, told.sink⟩
        exact logged.echoFor j v.notice
    exact (judged held).setMonitor other _
  | busy => exact ⟨reports.held, reports.sink⟩
  | waiting => exact reports

theorem serve (patient : R.Patient) (reports : r.ReportsTo i s) (o : Owner) (p : Primitive)
    (hook : Option Observer) (m : Nat) (c : Call) :
  (r.serve R o p hook m c).2.ReportsTo i s
  := by
  revert reports
  apply serve_of_told (P := fun r r' => r.ReportsTo i s → r'.ReportsTo i s)
  case refl => exact fun _ => id
  case trans => exact fun _ _ _ first second reports => second (first reports)
  case bare => exact fun _ _ _ _ reports => ⟨reports.held, reports.sink⟩
  case told =>
    intro a _ r n reports
    cases a with
    | monitor j => exact reports.observe patient j n.operation m
    | recorder k => exact ⟨reports.held, reports.sink⟩

/-- What a check of another monitor does while it holds its own guard. -/
theorem closeCase (patient : R.Patient) (reports : r.ReportsTo i s) (j : Nat) :
  (r.closeCase R j).2.ReportsTo i s
  := by
  have settled : (r.settle R j).ReportsTo i s := by
    rw [Rig.settle]
    split
    · exact reports
    · have logged : (r.log (.leaked (r.monitor j).tally.value.leaked)).ReportsTo i s :=
        ⟨reports.held, reports.sink⟩
      exact ((logged.echoFor j _).adjust Tally.settle).tell patient _ _
  have pleaded {q : Rig σ} (reports : q.ReportsTo i s) (t : Nat) : (q.plead R t).ReportsTo i s := by
    have asked := reports.tell patient t .violation
    have judged := asked.tell patient t .verdict
    rw [plead]
    split
    · simp only [convict, askVerdict]
      by_cases failed : Sink.verdict ((q.tell R t .violation).sink t) = .failed
      · simp only [failed, ↓reduceIte, judged]
      · simp only [failed, ↓reduceIte, judged.tell patient t _]
    · exact asked
  rw [closeCase_eq_plead]
  exact (pleaded settled _).tell patient _ _

theorem check (patient : R.Patient) (reports : r.ReportsTo i s) (j : Nat) :
  (r.check R j).2.ReportsTo i s
  := by
  rw [Rig.check]
  cases attempt : (r.monitor j).attempt with
  | acquired =>
    have other : i ≠ j := by
      rintro rfl
      cases reports.held.symm.trans (Monitor.free_of_attempt attempt)
    have held := reports.setMonitor other (r.monitor j).hold
    exact (held.closeCase patient j).setMonitor other _
  | busy => exact ⟨reports.held, reports.sink⟩
  | waiting => exact reports

/-- No touch lets a guard go that is held. -/
theorem perform (patient : R.Patient) (reports : r.ReportsTo i s) (t : Touch) :
  (t.perform R r).2.ReportsTo i s
  := by
  cases t with
  | call o x m c =>
    rw [Touch.perform, call_eq_serve]
    exact reports.serve patient o _ _ m c
  | callDirectly o n m c =>
    rw [Touch.perform, callDirectly_eq_serve]
    exact reports.serve patient o _ none m c
  | notice j m n => exact reports.observe patient j n.operation m
  | check j => exact reports.check patient j

end Rig.ReportsTo

theorem patient_silent :
  Responder.Patient (silent (σ := σ))
  := fun reports _ _ => reports

/-- Probes are patient. -/
theorem patient_probed [Sink σ] (probe : Family Probe) (depth : Nat) :
  Responder.Patient (probed (σ := σ) probe depth)
  := by
  induction depth with
  | zero => exact patient_silent
  | succ depth ih =>
    intro r i t reports s c
    rw [probed_succ]
    revert reports
    apply nestAll_of_perform (P := fun r r' => r.ReportsTo i t → r'.ReportsTo i t)
    case refl => exact fun _ => id
    case trans => exact fun _ _ _ first second reports => second (first reports)
    case made =>
      intro touch _ r a reports
      have made := reports.perform ih touch
      exact ⟨made.held, made.sink⟩

/-! ### Local sinks -/

theorem local_silent (G : Group) :
  Responder.Local G (silent (σ := σ))
  := ⟨fun h _ _ _ => h, fun reports _ => reports⟩

/-- The touches that are about a group, and name no primitive by its place. -/
def Group.Includes (G : Group) : Touch → Prop
  | .call _ x m _ => G.context x ∧ G.handle m
  | .callDirectly _ _ _ _ => False
  | .notice i m _ => G.monitor i ∧ G.handle m
  | .check i => G.monitor i

/-- Probes are local whose touches are about the group. -/
theorem local_probed [Sink σ] {G : Group} {probe : Family Probe}
    (includes : ∀ s, G.sink s → ∀ k, ∀ t ∈ probe s k, G.Includes t) (depth : Nat) :
  Responder.Local G (probed (σ := σ) probe depth)
  := by
  induction depth with
  | zero => exact local_silent G
  | succ depth ih =>
    refine ⟨?_, fun reports c => patient_probed probe (depth + 1) reports _ c⟩
    intro q r r' es es' h s mem c
    have linked := Rig.linked_grafted ih q es es'
    have candid : Rig.Candid G _ := Rig.candid_grafted q es es'
    have among := includes s mem c.kind
    rw [probed_succ, probed_succ]
    generalize probe s c.kind = ts at among
    induction ts generalizing r r' with
    | nil => exact h
    | cons t ts more =>
      refine more ?_ fun t mem => among t (List.mem_cons_of_mem _ mem)
      have own := among t List.mem_cons_self
      cases t with
      | call o x m c =>
        obtain ⟨answer, called⟩ := linked.bond.call h o own.1 own.2 c
        simp only [Touch.perform, answer]
        exact called.emit _
      | callDirectly o n m c => exact own.elim
      | notice i m n => exact (linked.bond.observe h own.1 n.operation own.2).emit _
      | check i =>
        have answer := linked.bond.answer_check candid h own
        simp only [Touch.perform, answer]
        exact (linked.bond.toCoupling.check h own).emit _

end LockDiscipline
