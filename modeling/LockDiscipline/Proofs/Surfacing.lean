import LockDiscipline.Proofs.Conservation
import LockDiscipline.Proofs.Discipline.Detection
import LockDiscipline.Proofs.Muting

/-!
# What monitors find is surfaced

A `Ledger` has the bytes of handles and a tally.  Whenever an operation is illegal, or a check
meets a surplus, there is a `Finding`, which one can tell from the ledger and the incidents that
happen to the monitor.  `Rig.Surfaces` says that the warnings in the log are the findings, in the
same order, and that they are what is echoed, if the monitor echoes.  Observations and checks
surface what they find, hence so does a call of which no other monitor is told
(`Rig.Surfaces.call`), whatever the sink answers, and so do works (`Rig.Surfaces.performAll`).
-/

namespace LockDiscipline

open Discipline (Request)

/-- What a monitor finds fault with. -/
inductive Finding where
  | illegal (v : Violation) (op : Operation)
  | surplus (leaked : Int)
  deriving DecidableEq, Repr

namespace Finding

/-- The event that tells of a finding. -/
def event : Finding → Event
  | illegal v op => .violated v op
  | surplus n => .leaked n

/-- The text by which a finding is shown. -/
def message : Finding → String
  | illegal v _ => "[mutex: " ++ v.tag ++ "]"
  | surplus n => "[mutex: " ++ toString n ++ " leaked]"

/-- What is logged of a finding. -/
def fields (f : Finding) : List (String × FieldValue) :=
  ("message", .text f.message) :: match f with
    | illegal v op => [("kind", .text v.kind), ("op", .text op.name)]
    | surplus n => [("kind", .text "missing_free"), ("leaked", .number n)]

theorem shown (f : Finding) :
  f.event.target = logTarget ∧ f.event.fields = f.fields
  := by
  cases f with
  | _ => exact ⟨rfl, rfl⟩

end Finding

/-- The bytes of handles, and the tally of a monitor. -/
structure Ledger where
  byte : Family UInt8
  tally : Tally

namespace Ledger

variable (L : Ledger)

/-- What there is to find in an incident. -/
def finding? : Incident → Option Finding
  | .operation false op m =>
    match transition (L.byte m) op with
    | .ok _ => none
    | .error v => some (.illegal v op)
  | .check false =>
    if L.tally.live = L.tally.baseline then none
    else some (.surplus (L.tally.live - L.tally.baseline))
  | _ => none

/-- The ledger after an incident. -/
def after : Incident → Ledger
  | .operation false op m =>
    match transition (L.byte m) op with
    | .ok c => ⟨L.byte.set m c.next.byte, L.tally.count c.delta⟩
    | .error _ => L
  | .check false => { L with tally := L.tally.settle }
  | .rebase => { L with tally := L.tally.rebase }
  | _ => L

/-- The ledger after some incidents. -/
def afterAll (es : List Incident) : Ledger := es.foldl after L

/-- What there is to find in incidents, one after another. -/
def findings : Ledger → List Incident → List Finding
  | _, [] => []
  | L, e :: es => (L.finding? e).toList ++ (L.after e).findings es

theorem afterAll_append (es es' : List Incident) :
  L.afterAll (es ++ es') = (L.afterAll es).afterAll es'
  := List.foldl_append

theorem findings_append (es es' : List Incident) :
  L.findings (es ++ es') = L.findings es ++ (L.afterAll es).findings es'
  := by
  induction es generalizing L with
  | nil => rfl
  | cons e es ih =>
    rw [List.cons_append, findings, findings, ih, List.append_assoc]
    rfl

theorem findings_singleton (e : Incident) :
  L.findings [e] = (L.finding? e).toList
  := List.append_nil _

end Ledger

/-! ### What is visible -/

/-- The warnings in the log. -/
def warnings (es : List Effect) : List Event := (events es).filter fun e => e.level = .warn

/-- The texts that are written to standard output. -/
def printed (es : List Effect) : List String := es.filterMap Effect.echo?

theorem warnings_append (es es' : List Effect) :
  warnings (es ++ es') = warnings es ++ warnings es'
  := by simp [warnings, events]

theorem printed_append (es es' : List Effect) :
  printed (es ++ es') = printed es ++ printed es'
  := by simp [printed]

/-- Calls of sinks are neither logged nor echoed. -/
theorem quiet_told (s : Nat) (cs : List SinkCall) :
  warnings (cs.map (.told s)) = [] ∧ printed (cs.map (.told s)) = []
  := by simp [warnings, events, printed, Effect.event?, Effect.echo?]

namespace Monitor

/-- The texts by which a monitor echoes findings. -/
def texts (x : Monitor) (fs : List Finding) : List String :=
  if x.settings.echo then fs.map fun f => f.message ++ " " else []

@[simp]
theorem texts_nil (x : Monitor) :
  x.texts [] = []
  := by simp [texts]

theorem texts_append (x : Monitor) (fs fs' : List Finding) :
  x.texts (fs ++ fs') = x.texts fs ++ x.texts fs'
  := by
  rw [texts, texts, texts]
  split
  · exact List.map_append
  · rfl

theorem visible_echoes (x : Monitor) (f : Finding) :
  warnings (x.echoes f.message) = [] ∧ printed (x.echoes f.message) = x.texts [f]
  := by
  rw [Monitor.echoes, texts]
  split
  · exact ⟨rfl, rfl⟩
  · exact ⟨rfl, rfl⟩

/-- A report is logged and echoed. -/
theorem visible_reports (x : Monitor) (op : Operation) (v : Violation) :
  warnings (x.reports op v) = [(Finding.illegal v op).event]
    ∧ printed (x.reports op v) = x.texts [.illegal v op]
  := by
  obtain ⟨logged, echoed⟩ := x.visible_echoes (.illegal v op)
  have split : x.reports op v
      = [.told x.sink (.record v), .logged (.violated v op)]
        ++ x.echoes (Finding.illegal v op).message := rfl
  rw [split, warnings_append, printed_append, logged, echoed]
  exact ⟨rfl, rfl⟩

/-- What a check meets is logged and echoed, and nothing else. -/
theorem visible_parley {σ : Type} [Sink σ] (x : Monitor) (a : σ) (byte : Family UInt8) :
  let found := ((⟨byte, x.tally.value⟩ : Ledger).finding? (.check false)).toList
  warnings (x.parley a) = found.map Finding.event ∧ printed (x.parley a) = x.texts found
  := by
  intro found
  have pleads := quiet_told x.sink
    (Sink.plea (Sink.receiveAll a (Sink.notes x.tally.value.leaked)))
  have cleared := quiet_told x.sink [.clear]
  simp only [List.map_cons, List.map_nil] at cleared
  have surplus : warnings x.surplus = found.map Finding.event
      ∧ printed x.surplus = x.texts found := by
    have even : x.tally.value.live = x.tally.value.baseline ↔ x.tally.value.leaked = 0 :=
      Int.sub_eq_zero.symm
    simp only [found, Ledger.finding?, Monitor.surplus]
    by_cases balanced : x.tally.value.leaked = 0
    · simp only [even.mpr balanced, balanced, ↓reduceIte]
      exact ⟨rfl, x.texts_nil.symm⟩
    · simp only [even, balanced, ↓reduceIte]
      obtain ⟨logged, echoed⟩ := x.visible_echoes (.surplus x.tally.value.leaked)
      have split : .logged (.leaked x.tally.value.leaked)
            :: x.echoes (leakNotice x.tally.value.leaked)
          = [.logged (.leaked x.tally.value.leaked)]
            ++ x.echoes (Finding.surplus x.tally.value.leaked).message := rfl
      have told := quiet_told x.sink [.record (.missingFree x.tally.value.leaked)]
      simp only [List.map_cons, List.map_nil] at told
      rw [split, warnings_append, warnings_append, printed_append, printed_append, logged, echoed,
        told.1, told.2]
      exact ⟨rfl, List.append_nil _⟩
  simp only [parley, warnings_append, printed_append, pleads, cleared, List.append_nil]
  exact surplus

end Monitor

/-! ### What is surfaced -/

namespace Rig

variable {σ : Type}

/-- The bytes of all handles, and the tally of monitor `i`. -/
def ledger (i : Nat) (r : Rig σ) : Ledger := ⟨fun m => (r.handle m).byte, (r.monitor i).tally.value⟩

/-- From one rig to the next the incidents `es` happened to monitor `i`: they are entered in the
ledger, and what there is to find in them is logged and echoed. -/
structure Surfaces (i : Nat) (es : List Incident) (r r' : Rig σ) : Prop where
  context : r'.context = r.context
  byte : (fun m => (r'.handle m).byte) = ((r.ledger i).afterAll es).byte
  monitor : r'.monitor i = (r.monitor i).adjust fun _ => ((r.ledger i).afterAll es).tally
  visible : ∃ new, r'.transcript = r.transcript ++ new
    ∧ warnings new = ((r.ledger i).findings es).map Finding.event
    ∧ printed new = (r.monitor i).texts ((r.ledger i).findings es)

namespace Surfaces

variable {i m : Nat} {es es' : List Incident} {r r' r'' : Rig σ}

theorem ledger (h : Surfaces i es r r') :
  r'.ledger i = (r.ledger i).afterAll es
  := by
  rw [Rig.ledger, h.byte, h.monitor]
  rfl

theorem held (h : Surfaces i es r r') :
  (r'.monitor i).tally.held = (r.monitor i).tally.held
  := by
  rw [h.monitor]
  rfl

theorem trans (h : Surfaces i es r r') (h' : Surfaces i es' r' r'') :
  Surfaces i (es ++ es') r r''
  := by
  constructor
  case context => rw [h'.context, h.context]
  case byte => rw [h'.byte, h.ledger, Ledger.afterAll_append]
  case monitor =>
    rw [h'.monitor, h.ledger, h.monitor, Ledger.afterAll_append]
    rfl
  case visible =>
    obtain ⟨new, before, logged, echoed⟩ := h.visible
    obtain ⟨new', after, logged', echoed'⟩ := h'.visible
    have texts : (r'.monitor i).texts = (r.monitor i).texts := by
      rw [h.monitor]
      rfl
    refine ⟨new ++ new', ?_, ?_, ?_⟩
    · rw [after, before, List.append_assoc]
    · rw [warnings_append, logged, logged', h.ledger, Ledger.findings_append, List.map_append]
    · rw [printed_append, echoed, echoed', texts, h.ledger, Ledger.findings_append,
        Monitor.texts_append]

/-- Nothing has happened to the monitor if contexts, bytes and the monitor are as they were, and
nothing was logged as a warning or echoed. -/
theorem of_silence {new : List Effect} (context : r'.context = r.context)
    (byte : ∀ m, (r'.handle m).byte = (r.handle m).byte) (monitor : r'.monitor i = r.monitor i)
    (transcript : r'.transcript = r.transcript ++ new) (unlogged : warnings new = [])
    (unechoed : printed new = []) :
  Surfaces i [] r r'
  := by
  constructor
  case context => exact context
  case byte => exact funext byte
  case monitor =>
    rw [monitor]
    rfl
  case visible =>
    refine ⟨new, transcript, unlogged, ?_⟩
    rw [unechoed, Ledger.findings, Monitor.texts_nil]

theorem refl (i : Nat) (r : Rig σ) :
  Surfaces i [] r r
  := of_silence rfl (fun _ => rfl) rfl (List.append_nil _).symm rfl rfl

theorem rebase (i : Nat) (r : Rig σ) :
  Surfaces i [.rebase] r (r.rebase i)
  := by
  constructor
  case context => rfl
  case byte => rfl
  case monitor => exact Family.set_self _ _ _
  case visible =>
    exact ⟨_, rfl, rfl, (Monitor.texts_nil _).symm⟩

theorem serveBare (i : Nat) (r : Rig σ) (o : Owner) (p : Primitive) (m : Nat) (c : Call) :
  Surfaces i [] r (r.serveBare o p m c).2
  := by
  obtain ⟨handle, script, served, byte⟩ := serveBare_eq (r := r) o p m c
  rw [served]
  exact of_silence rfl byte rfl (List.append_nil _).symm rfl rfl

variable [Sink σ]

theorem tell (i : Nat) (r : Rig σ) (s : Nat) (c : SinkCall) :
  Surfaces i [] r (r.tell silent s c)
  := by
  obtain ⟨unlogged, unechoed⟩ := quiet_told s [c]
  exact of_silence rfl (fun _ => rfl) rfl rfl unlogged unechoed

/-- An observation under a free guard is legal, and surfaces nothing, or it surfaces. -/
theorem observe (free : (r.monitor i).tally.held = false) (op : Operation) (m : Nat) :
  Surfaces i [.operation false op m] r (r.observe silent i op m)
  := by
  cases changes : transition (r.handle m).byte op with
  | ok c =>
    have after : (r.ledger i).after (.operation false op m)
        = ⟨(r.ledger i).byte.set m c.next.byte, (r.ledger i).tally.count c.delta⟩ := by
      simp only [Rig.ledger, Ledger.after, changes]
    have legal : (r.ledger i).finding? (.operation false op m) = none := by
      simp only [Rig.ledger, Ledger.finding?, changes]
    rw [observe_of_ok free changes]
    constructor
    case context => rfl
    case byte =>
      rw [Ledger.afterAll, List.foldl_cons, List.foldl_nil, after]
      exact r.handle.map_set m ((r.handle m).mark c.next) Handle.byte
    case monitor =>
      rw [Ledger.afterAll, List.foldl_cons, List.foldl_nil, after]
      exact Family.set_self _ _ _
    case visible =>
      rw [Ledger.findings_singleton, legal]
      exact ⟨[], (List.append_nil _).symm, rfl, (Monitor.texts_nil _).symm⟩
  | error v =>
    have after : (r.ledger i).after (.operation false op m) = r.ledger i := by
      simp only [Rig.ledger, Ledger.after, changes]
    have illegal : (r.ledger i).finding? (.operation false op m) = some (.illegal v op) := by
      simp only [Rig.ledger, Ledger.finding?, changes]
    rw [observe_of_error free changes, report_eq]
    constructor
    case context => rfl
    case byte =>
      rw [Ledger.afterAll, List.foldl_cons, List.foldl_nil, after]
      rfl
    case monitor =>
      rw [Ledger.afterAll, List.foldl_cons, List.foldl_nil, after]
      rfl
    case visible =>
      rw [Ledger.findings_singleton, illegal]
      exact ⟨_, rfl, (r.monitor i).visible_reports op v⟩

/-- A check under a free guard surfaces what it meets. -/
theorem check (free : (r.monitor i).tally.held = false) :
  Surfaces i [.check false] r (r.check silent i).2
  := by
  rw [check_of_free free, closeCase_eq_parley]
  constructor
  case context => rfl
  case byte => rfl
  case monitor => exact Family.set_self _ _ _
  case visible =>
    rw [Ledger.findings_singleton]
    exact ⟨_, rfl, (r.monitor i).visible_parley _ fun m => (r.handle m).byte⟩

/-! ### Calls -/

/-- Telling those who are no monitors surfaces nothing. -/
theorem notifyAll_of_none (r : Rig σ) (n : Notice) (m : Nat) {os : List Observer}
    (none : os.filterMap Observer.monitor? = []) :
  Surfaces i [] r (r.notifyAll silent n m os)
  := by
  induction os generalizing r with
  | nil => exact refl i r
  | cons o os ih =>
    cases o with
    | monitor j => cases none
    | recorder k =>
      have seen : Surfaces i [] r (r.notify silent n m (.recorder k)) :=
        of_silence rfl (fun _ => rfl) rfl rfl rfl rfl
      exact seen.trans (ih _ none)

/-- Telling a sole monitor, among others who are none, surfaces what it finds. -/
theorem notifyAll (free : (r.monitor i).tally.held = false) (n : Notice) (m : Nat)
    {os : List Observer} (sole : os.filterMap Observer.monitor? = [i]) :
  Surfaces i [.operation false n.operation m] r (r.notifyAll silent n m os)
  := by
  induction os generalizing r with
  | nil => cases sole
  | cons o os ih =>
    cases o with
    | monitor j =>
      obtain ⟨rfl, none⟩ := List.cons.inj sole
      exact (observe free n.operation m).trans (notifyAll_of_none _ n m none)
    | recorder k =>
      have seen : Surfaces i [] r (r.notify silent n m (.recorder k)) :=
        of_silence rfl (fun _ => rfl) rfl rfl rfl rfl
      exact seen.trans (ih (seen.held.trans free) sole)

/-- A call of which monitor `i` is the only one that is told surfaces what the monitor finds, if
it is made. -/
theorem call (free : (r.monitor i).tally.held = false) {x : Nat}
    (sole : (r.context x).observers.filterMap Observer.monitor? = [i]) (o : Owner) (m : Nat)
    (c : Call) :
  let made := r.call silent o x m c
  Surfaces i ((Request.operation? ⟨o, m, c⟩ made.1).toList.map (.operation false · m)) r made.2
  := by
  intro made
  have outwards {r : Rig σ} (free : (r.monitor i).tally.held = false) (n : Notice) :=
    notifyAll free n m sole
  have reverse : (r.context x).observers.reverse.filterMap Observer.monitor? = [i] := by
    rw [List.filterMap_reverse, sole]
    rfl
  have inwards (n : Notice) := notifyAll free n m reverse
  have served (c : Call) := serveBare i r o (r.context x).primitive m c
  have after (c : Call) :
      ((r.serveBare o (r.context x).primitive m c).2.monitor i).tally.held = false :=
    (served c).held.trans free
  have observers : (r.context x).primitive.observers (r.context x).hook
      = (r.context x).observers := rfl
  simp only [made, call_eq_serve, serve.eq_def, observers]
  by_cases waits : r.blocks (r.context x).primitive m c = true
  · simp only [waits, ↓reduceIte]
    cases c with
    | _ => exact refl i r
  · simp only [waits, Bool.false_eq_true, ↓reduceIte]
    cases c with
    | init => exact (served .init).trans (outwards (after .init) .initialised)
    | free => exact (inwards .freeing).trans (serveBare i _ o (r.context x).primitive m .free)
    | lock => exact (served .lock).trans (outwards (after .lock) (.locked _))
    | unlock => exact (inwards .unlocking).trans (serveBare i _ o (r.context x).primitive m .unlock)

end Surfaces

end Rig

/-! ### Works -/

namespace Work

/-- Whether a work is a call through context `x`, is about monitor `i`, or leaves contexts and
monitors to themselves. -/
def concerns (i x : Nat) : Work → Bool
  | call _ y _ _ => y = x
  | notice j _ _ | check j | rebase j | openCase j | closeCase j _ => j = i
  | tell _ _ | script _ _ => true
  | enable _ _ | disable _ _ | callDirectly _ _ _ _ | substitute _ _ | setHook _ _ => false

/-- The incidents that a work amounts to, as it was answered. -/
def incidents : Work → Answer → List Incident
  | call o _ m c, .reply a => (Request.operation? ⟨o, m, c⟩ a).toList.map (.operation false · m)
  | notice _ m n, _ => [.operation false n.operation m]
  | check _, _ | closeCase _ _, _ => [.check false]
  | rebase _, _ => [.rebase]
  | _, _ => []

/-- The incidents that works amount to, one after another, as they were answered. -/
def incidentsAll : List Work → List Answer → List Incident
  | w :: ws, a :: as => w.incidents a ++ incidentsAll ws as
  | _, _ => []

end Work

namespace Rig

variable {σ : Type} [Sink σ] {r r' : Rig σ} {i x : Nat}

namespace Surfaces

/-- A work surfaces what the monitor finds. -/
theorem perform (free : (r.monitor i).tally.held = false)
    (sole : (r.context x).observers.filterMap Observer.monitor? = [i]) {w : Work}
    (about : w.concerns i x = true) :
  Surfaces i (w.incidents (w.perform silent r).1) r (w.perform silent r).2
  := by
  cases w with
  | call o y m c =>
    obtain rfl : y = x := of_decide_eq_true about
    exact call free sole o m c
  | notice j m n =>
    obtain rfl : j = i := of_decide_eq_true about
    exact observe free n.operation m
  | check j =>
    obtain rfl : j = i := of_decide_eq_true about
    exact check free
  | rebase j =>
    obtain rfl : j = i := of_decide_eq_true about
    exact rebase j r
  | openCase j => exact tell i r _ .reset
  | closeCase j panic =>
    obtain rfl : j = i := of_decide_eq_true about
    rw [Work.perform, Bond.concludeCase_eq]
    cases panic with
    | none => exact (check free).trans (tell j _ _ .verdict)
    | some p =>
      have failed := tell j r (r.monitor j).sink (.fail p.failure)
      exact failed.trans ((check (failed.held.trans free)).trans (tell j _ _ .verdict))
  | tell s c => exact tell i r s c
  | script n change => exact of_silence rfl (fun _ => rfl) rfl (List.append_nil _).symm rfl rfl
  | enable j y | disable j y | callDirectly o p m c | substitute y p | setHook y hook =>
    cases about

/-- Works surface what the monitor finds, whatever the sinks are like. -/
theorem performAll (free : (r.monitor i).tally.held = false)
    (sole : (r.context x).observers.filterMap Observer.monitor? = [i]) {ws : List Work}
    (about : ∀ w ∈ ws, w.concerns i x = true) :
  Surfaces i (Work.incidentsAll ws (Work.performAll silent r ws).1) r
    (Work.performAll silent r ws).2
  := by
  induction ws generalizing r with
  | nil => exact refl i r
  | cons w ws ih =>
    have done := perform free sole (about w List.mem_cons_self)
    have rest := ih (done.held.trans free) (by rw [done.context, sole])
      fun w mem => about w (List.mem_cons_of_mem _ mem)
    exact done.trans rest

end Surfaces

/-- Monitor `i` is the only one that is told of the calls through context `x`, and its guard is
free.  Then the warnings that works add to the log are what there is to find in the incidents,
one by one, and they are echoed one by one if the monitor echoes, whatever the sinks are like and
whatever is pending.  Whether the monitor echoes changes nothing else. -/
theorem performAll_surfaces (free : (r.monitor i).tally.held = false)
    (sole : (r.context x).observers.filterMap Observer.monitor? = [i]) (ws : List Work)
    (about : ∀ w ∈ ws, w.concerns i x = true) :
  let run (on : Bool) := Work.performAll silent (r.setEcho i on) ws
  let incidents := Work.incidentsAll ws (run true).1
  let found := (r.ledger i).findings incidents
  (∀ on, ∃ new, (run on).2.transcript = r.transcript ++ new
      ∧ (warnings new).map (fun e => (e.target, e.fields))
        = found.map (fun f => (logTarget, f.fields))
      ∧ echo new = (if on then String.join (found.map fun f => f.message ++ " ") else "")
      ∧ (run on).2.ledger i = (r.ledger i).afterAll incidents)
    ∧ (run false).1 = (run true).1
    ∧ events (run false).2.transcript = events (run true).2.transcript
    ∧ (run false).2.handle = (run true).2.handle
    ∧ (run false).2.script = (run true).2.script
    ∧ (run false).2.context = (run true).2.context
    ∧ (run false).2.sink = (run true).2.sink
    ∧ (∀ j, ((run false).2.monitor j).tally = ((run true).2.monitor j).tally)
    ∧ (run false).2.transcript.filter Effect.unechoed
      = (run true).2.transcript.filter Effect.unechoed
  := by
  intro run incidents found
  have muted (on : Bool) : ((run on).1, (run on).2.mute) = ((run true).1, (run true).2.mute) :=
    (r.mute_performAll_setEcho i on ws).trans (r.mute_performAll_setEcho i true ws).symm
  have answers (on : Bool) : (run on).1 = (run true).1 := (Prod.mk.inj (muted on)).1
  have alike := alike_of_mute (Prod.mk.inj (muted false)).2
  have visible := alike.2.2.2.2.2
  have logged : events (run false).2.transcript = events (run true).2.transcript := by
    rw [← events_filter_unechoed, visible, events_filter_unechoed]
  refine ⟨?_, answers false, logged, alike⟩
  intro on
  have heard : (r.setEcho i on).monitor i = (r.monitor i).withEcho on := Family.set_self _ _ _
  have books : (r.setEcho i on).ledger i = r.ledger i := by
    rw [ledger, heard]
    rfl
  have surfaced := Surfaces.performAll (r := r.setEcho i on) (by rw [heard]; exact free) sole about
  rw [answers on] at surfaced
  obtain ⟨new, transcript, logged, echoed⟩ := surfaced.visible
  rw [books] at logged echoed
  refine ⟨new, transcript, ?_, ?_, ?_⟩
  · rw [logged, List.map_map]
    apply List.map_congr_left
    intro f _
    obtain ⟨target, fields⟩ := f.shown
    exact Prod.ext target fields
  · have text : echo new = String.join (printed new) := rfl
    rw [text, echoed, heard, Monitor.texts]
    cases on with
    | true => rfl
    | false => rfl
  · rw [surfaced.ledger, books]

/-- A test case in which a handle over corrupted memory is locked, another one initialised, and
one unlocked that is not locked, and a check. -/
def slips : List Work :=
  Work.case 0 [.call (.worker 0) 0 3 .lock, .call (.worker 0) 0 0 .init,
    .call (.worker 0) 0 1 .unlock] none ++ [.check 0]

/-- The first violation is pending when the others are found, which are surfaced all the same. -/
theorem performAll_surfaces_slips :
  let r := (scrap.enable 0 0).2
  let run (on : Bool) := Work.performAll silent (r.setEcho 0 on) slips
  (r.monitor 0).tally.held = false
    ∧ (∃ new, (run true).2.transcript = r.transcript ++ new
      ∧ (warnings new).map (fun e => (e.target, e.fields))
        = [(logTarget, [("message", .text "[mutex: corrupted state]"),
            ("kind", .text "corrupted_state"), ("op", .text "lock")]),
          (logTarget, [("message", .text "[mutex: unlock without lock]"),
            ("kind", .text "unlock_without_lock"), ("op", .text "unlock")]),
          (logTarget, [("message", .text "[mutex: 1 leaked]"), ("kind", .text "missing_free"),
            ("leaked", .number 1)])]
      ∧ echo new
        = "[mutex: corrupted state] [mutex: unlock without lock] [mutex: 1 leaked] ")
    ∧ ∃ new, (run false).2.transcript = r.transcript ++ new ∧ echo new = ""
  := by
  intro r run
  have free : (r.monitor 0).tally.held = false := by decide +kernel
  have sole : (r.context 0).observers.filterMap Observer.monitor? = [0] := by decide +kernel
  obtain ⟨surfaced, -⟩ := performAll_surfaces free sole slips (by decide)
  dsimp only at surfaced
  dsimp only [run]
  have found : (r.ledger 0).findings
        (Work.incidentsAll slips (Work.performAll silent (r.setEcho 0 true) slips).1)
      = [.illegal (.corruptedState 3) (.lock true), .illegal .unlockWithoutLock .unlock,
        .surplus 1] := by decide +kernel
  obtain ⟨new, transcript, logged, echoed, -⟩ := surfaced true
  obtain ⟨new', transcript', -, unechoed, -⟩ := surfaced false
  rw [found] at logged echoed
  refine ⟨free, ⟨new, transcript, ?_, ?_⟩, new', transcript', ?_⟩
  · exact logged.trans (by decide +kernel)
  · exact echoed.trans (by decide +kernel)
  · exact unechoed.trans (if_neg Bool.false_ne_true)

end Rig

end LockDiscipline
