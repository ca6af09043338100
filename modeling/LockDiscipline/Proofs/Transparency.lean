import LockDiscipline.Proofs.Discipline.Hearing
import LockDiscipline.Proofs.Lifecycle.Steadiness

/-!
# Transparency

Calls are answered as if nobody observed them.  Beside a rig with any decorators and hooks
stands the one without (`Rig.bare`), and the same calls are made on both, on the former while
the guards of any monitors are held by somebody else (`Rig.visitAll`).

* The bare rig answers every call in the same way and comes to the same platform
  (`Rig.call_bare`), since the platform of a rig decides both, however many layers the call goes
  through (`Rig.call_eq_serve`).
* Every call that is made is served once by the bare primitive (`Rig.calls_call`).
* A call through a context that no monitor observes changes no byte
  (`Rig.byte_call_of_unmonitored`).

The theorem `Rig.visitAll_transparent` says this of any number of calls.
-/

namespace LockDiscipline

open Discipline (Request)

/-! ### Calls and how they are served -/

namespace Call

/-- How a call was served, if it was made. -/
def served? : Call → Reply → Option ServedCall
  | .init, .done => some .init
  | .free, .done => some .free
  | .lock, .status s => some (.lock s)
  | .unlock, .status s => some (.unlock s)
  | _, _ => none

end Call

/-- A script notes every call that it serves. -/
theorem Script.calls_serve (q : Script) (c : Call) :
  (q.serve c).2.calls = q.calls ++ (c.served? (c.reply (q.serve c).1)).toList
  := by cases c <;> rfl

/-- What library code calls through when nobody observes it. -/
def Context.bare (c : Context) : Context := { primitive := c.primitive.base }

/-- A call through context `context`, while the guards of the `busy` monitors are held by
somebody else.  A guard that the caller waits for is free in the end. -/
structure Visit where
  context : Nat
  request : Request
  busy : Nat → Bool

/-- The touch by which a call is made. -/
def Visit.touch (v : Visit) : Touch := v.request.touch v.context

namespace Rig

variable {σ : Type} {r b : Rig σ}

/-- The rig without decorators and hooks. -/
def bare (r : Rig σ) : Rig σ := { r with context := fun x => (r.context x).bare }

/-- The rig in which the guards of the `busy` monitors are held, and no others. -/
def occupy (busy : Nat → Bool) (r : Rig σ) : Rig σ :=
  { r with
    monitor := fun i =>
      { r.monitor i with tally := { (r.monitor i).tally with held := busy i } } }

/-- The calls that script `n` serves when visits to the given contexts are answered. -/
def journal (n : Nat) (context : Family Context) : List Visit → List Reply → List ServedCall
  | v :: vs, a :: as =>
    (if (context v.context).primitive.base = .bare n .scripted then
      (v.request.call.served? a).toList
    else []) ++ journal n context vs as
  | _, _ => []

/-! ### Calls on bare primitives -/

theorem serveBare_bare (o : Owner) (p : Primitive) (m : Nat) (c : Call) :
  r.bare.serveBare o p m c = ((r.serveBare o p m c).1, (r.serveBare o p m c).2.bare)
  := by
  rw [serveBare.eq_def, serveBare.eq_def]
  cases p.kind with
  | scripted => rfl
  | native => cases c <;> rfl

variable [Sink σ]

/-- A bare primitive tells nobody. -/
theorem callDirectly_base (R : Responder σ) (o : Owner) (p : Primitive) (m : Nat) (c : Call) :
  r.callDirectly R o p.base m c =
    if r.blocks p.base m c then (.wouldBlock, r)
    else (c.reply (r.serveBare o p.base m c).1, (r.serveBare o p.base m c).2)
  := by
  rfl

theorem callDirectly_bare (R : Responder σ) (o : Owner) (p : Primitive) (m : Nat) (c : Call) :
  r.bare.callDirectly R o p.base m c
    = ((r.callDirectly R o p.base m c).1, (r.callDirectly R o p.base m c).2.bare)
  := by
  have blocks : r.bare.blocks p.base m c = r.blocks p.base m c := rfl
  rw [callDirectly_base, callDirectly_base, blocks]
  split
  · rfl
  · rw [serveBare_bare]

/-- A scripted primitive notes the calls that it answers, and nobody else's. -/
theorem calls_callDirectly_base (R : Responder σ) (o : Owner) (p : Primitive) (m n : Nat)
    (c : Call) :
  ((r.callDirectly R o p.base m c).2.script n).calls = (r.script n).calls
    ++ (if p.base = .bare n .scripted then
      (c.served? (r.callDirectly R o p.base m c).1).toList else [])
  := by
  rw [callDirectly_base, serveBare.eq_def]
  cases kind : p.base.kind with
  | native =>
    have other : p.base ≠ .bare n .scripted := by
      intro same
      cases kind.symm.trans (congrArg Primitive.kind same)
    rw [if_neg other, List.append_nil]
    split
    · rfl
    · cases c <;> rfl
  | scripted =>
    have lets : r.blocks p.base m c = false := by simp [blocks, kind]
    have name : p.base = .bare p.base.bottom .scripted := congrArg (Primitive.bare p.bottom) kind
    rw [lets]
    by_cases here : n = p.base.bottom
    · subst here
      simp [← name, setScript, Script.calls_serve]
    · have other : p.base ≠ .bare n .scripted := by
        intro same
        exact here (congrArg Primitive.bottom same).symm
      simp [other, setScript, here]

/-! ### Calls through a context -/

/-- A rig with the same platform, but without decorators and hooks, answers a call in the same
way and comes to the same platform. -/
theorem call_bare (same : b.platform = r.platform.bare) (o : Owner) (x m : Nat) (c : Call) :
  (b.call silent o x m c).1 = (r.call silent o x m c).1
    ∧ (b.call silent o x m c).2.platform = (r.call silent o x m c).2.platform.bare
  := by
  have base : (b.context x).primitive.base = (r.context x).primitive.base := by
    have context : b.context x = (r.context x).bare := congrFun (congrArg Rig.context same) x
    rw [context]
    rfl
  have plain := platform_call b o x m c
  rw [base, same, callDirectly_bare, platform_call] at plain
  obtain ⟨answer, platform⟩ := Prod.mk.inj plain
  exact ⟨answer.symm, platform.symm⟩

theorem context_call (o : Owner) (x m : Nat) (c : Call) :
  (r.call silent o x m c).2.context = r.context
  := by
  rw [call_eq_serve]
  exact congrArg Prod.fst (installation_serve steady_silent r o _ _ m c)

/-- Every call that is made is served by the bare primitive, once. -/
theorem calls_call (o : Owner) (x m n : Nat) (c : Call) :
  ((r.call silent o x m c).2.script n).calls = (r.script n).calls
    ++ (if (r.context x).primitive.base = .bare n .scripted then
      (c.served? (r.call silent o x m c).1).toList else [])
  := by
  have noted := calls_callDirectly_base (r := r.platform) silent o (r.context x).primitive m n c
  rw [platform_call] at noted
  exact noted

/-- Without monitors there is nobody to change a byte. -/
theorem byte_call_of_unmonitored {x : Nat} (alone : ∀ i, .monitor i ∉ (r.context x).observers)
    (R : Responder σ) (o : Owner) (m : Nat) (c : Call) (n : Nat) :
  ((r.call R o x m c).2.handle n).byte = (r.handle n).byte
  := by
  have spares : Spares (r.context x).observers r (r.call R o x m c).2 :=
    Spares.call (fun j mem => absurd mem (alone j)) o m c
  exact spares.byte alone n

/-! ### Any number of calls -/

/-- Makes a call while the guards of some monitors are busy. -/
def visit (v : Visit) (r : Rig σ) : Reply × Rig σ :=
  (r.occupy v.busy).call silent v.request.owner v.context v.request.handle v.request.call

/-- Makes calls while the guards of some monitors are busy, one after another. -/
def visitAll (r : Rig σ) : List Visit → List Reply × Rig σ
  | [] => ([], r)
  | v :: vs =>
    let (a, r) := r.visit v
    let (as, r) := r.visitAll vs
    (a :: as, r)

theorem context_visit (v : Visit) :
  (r.visit v).2.context = r.context
  := context_call (r := r.occupy v.busy) ..

theorem context_visitAll (r : Rig σ) (vs : List Visit) :
  (r.visitAll vs).2.context = r.context
  := by
  induction vs generalizing r with
  | nil => rfl
  | cons v vs ih => exact (ih _).trans (context_visit v)

theorem visitAll_concat (r : Rig σ) (vs : List Visit) (v : Visit) :
  (r.visitAll (vs ++ [v])).2 = ((r.visitAll vs).2.visit v).2
  := by
  induction vs generalizing r with
  | nil => rfl
  | cons w vs ih => apply ih

/-- The bare rig gives the same answers to any number of calls. -/
theorem visitAll_bare (same : b.platform = r.platform.bare) (vs : List Visit) :
  (Touch.performAll silent b (vs.map Visit.touch)).1 = (r.visitAll vs).1
    ∧ (Touch.performAll silent b (vs.map Visit.touch)).2.platform
      = (r.visitAll vs).2.platform.bare
  := by
  induction vs generalizing r b with
  | nil => exact ⟨rfl, same⟩
  | cons v vs ih =>
    obtain ⟨answer, platform⟩ := call_bare (r := r.occupy v.busy) same v.request.owner v.context
      v.request.handle v.request.call
    obtain ⟨answers, last⟩ := ih platform
    exact ⟨congrArg₂ List.cons answer answers, last⟩

/-- Every call is served once, in the order in which the calls are made. -/
theorem calls_visitAll (r : Rig σ) (vs : List Visit) (n : Nat) :
  ((r.visitAll vs).2.script n).calls
    = (r.script n).calls ++ journal n r.context vs (r.visitAll vs).1
  := by
  induction vs generalizing r with
  | nil => exact (List.append_nil _).symm
  | cons v vs ih =>
    have served := calls_call (r := r.occupy v.busy) v.request.owner v.context v.request.handle n
      v.request.call
    have rest := ih (r.visit v).2
    rw [context_visit] at rest
    exact (rest.trans (congrArg (· ++ _) served)).trans (List.append_assoc _ _ _)

/-- Observers make no difference to the calls that they observe: whatever decorators and hooks
there are, whatever the bytes, and whichever guards are busy, all calls are answered as they
are without them, scripts have served the same calls and platform locks have the same owners.
Every call that is made is served once, in order.  A call through a context that no monitor
observes changes no byte. -/
theorem visitAll_transparent (r : Rig σ) (vs : List Visit) :
  let watched := r.visitAll vs
  let plain := Touch.performAll silent r.bare (vs.map Visit.touch)
  watched.1 = plain.1
    ∧ watched.2.script = plain.2.script
    ∧ (∀ m, (watched.2.handle m).locked = (plain.2.handle m).locked
      ∧ (watched.2.handle m).owner = (plain.2.handle m).owner)
    ∧ (∀ n, (watched.2.script n).calls
      = (r.script n).calls ++ journal n r.context vs watched.1)
    ∧ ∀ v : Visit, (∀ i, .monitor i ∉ (r.context v.context).observers) →
      ∀ m, ((r.visitAll (vs ++ [v])).2.handle m).byte = (watched.2.handle m).byte
  := by
  intro watched plain
  obtain ⟨answers, platform⟩ : plain.1 = watched.1 ∧ plain.2.platform = watched.2.platform.bare :=
    visitAll_bare rfl vs
  have handle (m : Nat) : plain.2.platform.handle m = watched.2.platform.handle m :=
    congrFun (congrArg Rig.handle platform) m
  refine ⟨answers.symm, ?_, ?_, calls_visitAll r vs, ?_⟩
  · exact (congrArg Rig.script platform).symm
  · intro m
    constructor
    · exact (congrArg Handle.locked (handle m)).symm
    · exact (congrArg Handle.owner (handle m)).symm
  · intro v alone m
    rw [visitAll_concat]
    apply byte_call_of_unmonitored (r := watched.2.occupy v.busy)
    have context : (watched.2.occupy v.busy).context = r.context := context_visitAll r vs
    rw [context]
    exact alone

/-- A rig whose first context is watched by three monitors over a scripted primitive, and the
others by a recorder over a native one. -/
def theatre : Rig CaseRecord where
  handle _ := {}
  script _ := { lockResults := [.refused .lockFailure] }
  context
    | 0 =>
      { primitive := .instrumented (.instrumented (.bare 0 .scripted) 0 0) 1 0
        hook := some (.monitor 2) }
    | _ => { primitive := .bare 1 .native, hook := some (.recorder 0) }
  monitor _ := { sink := 0, settings := { guardPolicy := .skipWhenBusy } }
  sink _ := .fresh
  slot _ := {}
  primitives := []
  started := 0
  transcript := []

/-- Handles are used before they are initialised, one of the monitors is busy at first, and a
platform lock is taken twice and released by the wrong thread. -/
def blunders : List Visit :=
  [⟨0, ⟨.worker 0, 0, .lock⟩, (· = 1)⟩, ⟨0, ⟨.worker 0, 0, .unlock⟩, fun _ => false⟩,
    ⟨1, ⟨.worker 0, 1, .lock⟩, fun _ => false⟩, ⟨1, ⟨.worker 1, 1, .lock⟩, fun _ => false⟩,
    ⟨1, ⟨.worker 1, 1, .unlock⟩, fun _ => false⟩]

/-- The answers are those of the primitives, one of them refused to answer, and the recorder
has changed nothing. -/
theorem visitAll_transparent_blunders :
  let watched := theatre.visitAll blunders
  watched.1 = [.status (.refused .lockFailure), .status .ok, .status .ok, .wouldBlock,
      .status (.refused .lockFailure)]
    ∧ (watched.2.script 0).calls = [.lock (.refused .lockFailure), .unlock .ok]
    ∧ (watched.2.handle 1).owner = some (.worker 0)
    ∧ (∀ i, .monitor i ∉ (theatre.context 1).observers)
    ∧ ∀ m, ((theatre.visitAll (blunders ++ [⟨1, ⟨.worker 0, 1, .unlock⟩, fun _ => true⟩])).2.handle
      m).byte = (watched.2.handle m).byte
  := by
  intro watched
  obtain ⟨answers, -, platform, calls, unchanged⟩ := visitAll_transparent theatre blunders
  have alone : ∀ i, .monitor i ∉ (theatre.context 1).observers := by
    intro i mem
    cases List.mem_singleton.mp mem
  refine ⟨answers.trans (by decide +kernel), ?_, ?_, alone, unchanged _ alone⟩
  · exact (calls 0).trans (by decide +kernel)
  · exact (platform 1).2.trans (by decide +kernel)

end Rig

end LockDiscipline
