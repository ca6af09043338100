import LockDiscipline.Proofs.Lifecycle.Steadiness

/-!
# Who acts when calls are made

A monitor heeds a rig if it is told of the calls of some context (`Rig.Heeds`).  When a call is
made through a context, only monitors that heed the rig change, and sinks are called on their
behalf only (`Rig.Attended.call`).  Sinks may use the library in turn, as long as what they do
comes to no more than that: they are mediated (`Responder.Mediated`).  So are probes that use
contexts only (`mediated_probed`).
-/

namespace LockDiscipline

variable {σ : Type}

namespace Rig

/-- Monitor `i` is told of the calls of some context. -/
def Heeds (i : Nat) (r : Rig σ) : Prop := ∃ x, .monitor i ∈ (r.context x).observers

/-- From one rig to the next only monitors that heed the rig have changed, though nothing of
what is installed, and sinks were called on their behalf only. -/
structure Attended (r r' : Rig σ) : Prop where
  installation : r'.installation = r.installation
  reports : ∀ j, (r'.monitor j).sink = (r.monitor j).sink
  monitor : ∀ j, ¬ r.Heeds j → r'.monitor j = r.monitor j
  told : ∃ new, r'.transcript = r.transcript ++ new
    ∧ ∀ s c, .told s c ∈ new → ∃ j, r.Heeds j ∧ (r.monitor j).sink = s

end Rig

/-- What sinks do when they are called is done through contexts. -/
def Responder.Mediated (R : Responder σ) : Prop := ∀ s c r, Rig.Attended r (R s c r)

theorem Responder.Mediated.steady {R : Responder σ} (mediated : R.Mediated) :
  R.Steady
  := fun s c r => (mediated s c r).installation

namespace Rig.Attended

variable {r r' r'' : Rig σ} {i : Nat}

theorem heeds_iff (h : Attended r r') :
  r'.Heeds i ↔ r.Heeds i
  := by
  have context : r'.context = r.context := congrArg Prod.fst h.installation
  rw [Heeds, Heeds, context]

theorem of_eq {new : List Effect} (installation : r'.installation = r.installation)
    (monitor : r'.monitor = r.monitor) (transcript : r'.transcript = r.transcript ++ new)
    (untold : ∀ s c, .told s c ∉ new) :
  Attended r r'
  := by
  refine ⟨installation, ?_, ?_, new, transcript, ?_⟩
  · simp [monitor]
  · simp [monitor]
  · exact fun s c told => absurd told (untold s c)

theorem refl (r : Rig σ) :
  Attended r r
  := of_eq rfl rfl (List.append_nil _).symm (by simp)

theorem emit {e : Effect} (untold : ∀ s c, e ≠ .told s c) :
  Attended r (r.emit e)
  := by
  refine ⟨rfl, fun _ => rfl, fun _ _ => rfl, [e], rfl, ?_⟩
  intro s c told
  exact absurd (List.mem_singleton.mp told).symm (untold s c)

theorem trans (h : Attended r r') (h' : Attended r' r'') :
  Attended r r''
  := by
  constructor
  case installation => rw [h'.installation, h.installation]
  case reports =>
    intro j
    rw [h'.reports, h.reports]
  case monitor =>
    intro j deaf
    rw [h'.monitor j (h.heeds_iff.not.mpr deaf), h.monitor j deaf]
  case told =>
    obtain ⟨new, transcript, heard⟩ := h.told
    obtain ⟨new', transcript', heard'⟩ := h'.told
    use new ++ new'
    constructor
    · rw [transcript', transcript, List.append_assoc]
    · intro s c told
      obtain here | later := List.mem_append.mp told
      · exact heard s c here
      · obtain ⟨j, heeds, sink⟩ := heard' s c later
        exact ⟨j, h.heeds_iff.mp heeds, (h.reports j).symm.trans sink⟩

theorem setHandle (m : Nat) (a : Handle) :
  Attended r (r.setHandle m a)
  := of_eq rfl rfl (List.append_nil _).symm (by simp)

/-- A monitor that heeds the rig may change, but for what is installed. -/
theorem setMonitor {y : Monitor} (heeds : r.Heeds i) (sink : y.sink = (r.monitor i).sink)
    (settings : y.settings = (r.monitor i).settings)
    (replaced : y.replaced = (r.monitor i).replaced) :
  Attended r (r.setMonitor i y)
  := by
  constructor
  case installation => exact installation_setMonitor settings replaced
  case reports =>
    intro j
    by_cases here : j = i
    · subst here
      simpa [Rig.setMonitor] using sink
    · simp [Rig.setMonitor, here]
  case monitor =>
    intro j deaf
    apply Family.set_of_ne
    rintro rfl
    exact deaf heeds
  case told => exact ⟨[], (List.append_nil _).symm, by simp⟩

theorem echoFor (s : String) :
  Attended r (r.echoFor i s)
  := by
  rw [Rig.echoFor]
  split
  · exact emit (by simp)
  · exact refl r

variable [Sink σ] {R : Responder σ}

/-- A monitor that heeds the rig may call its sink. -/
theorem tell (mediated : R.Mediated) (heeds : r.Heeds i) (c : SinkCall) :
  Attended r (r.tell R (r.monitor i).sink c)
  := by
  have called : Attended r ((r.setSink (r.monitor i).sink
      (Sink.receive (r.sink (r.monitor i).sink) c)).emit (.told (r.monitor i).sink c)) := by
    refine ⟨rfl, fun _ => rfl, fun _ _ => rfl, [.told (r.monitor i).sink c], rfl, ?_⟩
    intro s c' told
    obtain ⟨rfl, -⟩ := Effect.told.inj (List.mem_singleton.mp told)
    exact ⟨i, heeds, rfl⟩
  exact called.trans (mediated _ _ _)

theorem judge (mediated : R.Mediated) (heeds : r.Heeds i) (op : Operation) (m : Nat) :
  Attended r (r.judge R i op m)
  := by
  rw [Rig.judge]
  cases transition (r.handle m).byte op with
  | ok c => exact (setHandle m _).trans (setMonitor heeds rfl rfl rfl)
  | error v =>
    have logged (r : Rig σ) : Attended r (r.log (.violated v op)) := emit (by simp)
    exact ((tell mediated heeds _).trans (logged _)).trans (echoFor _)

/-- A monitor that heeds the rig may observe. -/
theorem observe (mediated : R.Mediated) (heeds : r.Heeds i) (op : Operation) (m : Nat) :
  Attended r (r.observe R i op m)
  := by
  rw [Rig.observe]
  cases (r.monitor i).attempt with
  | acquired =>
    have held : Attended r (r.setMonitor i (r.monitor i).hold) := setMonitor heeds rfl rfl rfl
    have judged := held.trans (judge mediated (held.heeds_iff.mpr heeds) op m)
    exact judged.trans (setMonitor (judged.heeds_iff.mpr heeds) rfl rfl rfl)
  | busy => exact emit (by simp)
  | waiting => exact refl r

/-- Only those who heed the rig attend to a call. -/
theorem call (mediated : R.Mediated) (o : Owner) (x m : Nat) (c : Call) :
  Attended r (r.call R o x m c).2
  := by
  have attended : r.installation = r.installation → Attended r (r.call R o x m c).2 := by
    apply call_of_told (P := fun r₁ r₂ => r₁.installation = r.installation → Attended r₁ r₂)
    case refl => exact fun r₁ _ => refl r₁
    case trans =>
      intro r₁ r₂ r₃ first second same
      have attended := first same
      exact attended.trans (second (attended.installation.trans same))
    case bare => exact fun _ _ _ _ _ => of_eq rfl rfl (List.append_nil _).symm (by simp)
    case told =>
      intro a mem r₁ n same
      cases a with
      | monitor i =>
        apply observe mediated
        use x
        have context : r₁.context = r.context := congrArg Prod.fst same
        rw [context]
        exact mem
      | recorder k => exact emit (by simp)
  exact attended rfl

end Rig.Attended

/-! ### Probes -/

theorem mediated_silent :
  Responder.Mediated (silent (σ := σ))
  := fun _ _ r => .refl r

/-- Probes are mediated that make calls through contexts and do nothing else. -/
theorem mediated_probed [Sink σ] {probe : Family Probe}
    (calls : ∀ s k, ∀ t ∈ probe s k, ∃ o x m c, t = .call o x m c) (depth : Nat) :
  Responder.Mediated (probed (σ := σ) probe depth)
  := by
  induction depth with
  | zero => exact mediated_silent
  | succ depth ih =>
    intro s c r
    rw [probed_succ]
    apply nestAll_of_perform (P := Rig.Attended)
    case refl => exact .refl
    case trans => exact fun _ _ _ => .trans
    case made =>
      intro t mem r a
      obtain ⟨o, x, m, c', rfl⟩ := calls s c.kind t mem
      exact (Rig.Attended.call ih o x m c').trans (.emit (by simp))

end LockDiscipline
