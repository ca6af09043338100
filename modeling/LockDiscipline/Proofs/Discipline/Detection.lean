import LockDiscipline.Proofs.Discipline.Language
import LockDiscipline.Proofs.Frame
import LockDiscipline.Rig.Reentry

/-!
# Detection of violations

A monitor that is the only one enabled on a context sees every call made through it.  Each
call that is made amounts to an `Operation` on its handle, and `word m ops` is what handle
`m` goes through in a sequence of operations on all handles.

`Followed` is what holds after every sequence of calls: as long as every word is legal each
handle is in the state that its word leads to and no violation is pending, and afterwards
the violation is pending for which the first operation is to blame that left a word
illegal.  It is kept by an observation (`Followed.observe`), hence by a call
(`Followed.call`), hence by any number of calls (`Followed.performAll`).
-/

namespace LockDiscipline

/-- The monitor that an observer is, if it is one. -/
def Observer.monitor? : Observer → Option Nat
  | monitor i => some i
  | recorder _ => none

/-- A context that no monitor observes has no decorators, and at most a recorder for a
hook. -/
theorem unmonitored_iff {c : Context} :
  (∀ j, .monitor j ∉ c.observers)
    ↔ c.primitive.monitors = [] ∧ c.hook.toList.filterMap Observer.monitor? = []
  := by
  rw [List.eq_nil_iff_forall_not_mem, List.filterMap_eq_nil_iff]
  simp only [Context.observers, Primitive.observers, List.mem_append, List.mem_map,
    Observer.monitor.injEq, exists_eq_right, not_or]
  constructor
  · intro alone
    constructor
    · intro j
      apply (alone j).1
    · intro o told
      cases o with
      | monitor j => exact absurd told (alone j).2
      | recorder k => rfl
  · rintro ⟨bare, unhooked⟩ j
    constructor
    · apply bare
    · intro told
      cases unhooked _ told

/-- A monitor that is enabled on a context that no monitor observes is the only one that is
told of its calls. -/
theorem Rig.sole_enable {σ : Type} {r : Rig σ} {i x : Nat}
    (inactive : (r.monitor i).replaced = none)
    (alone : ∀ j, .monitor j ∉ (r.context x).observers) :
  ((r.enable i x).2.context x).observers.filterMap Observer.monitor? = [i]
  := by
  obtain ⟨bare, unhooked⟩ := unmonitored_iff.mp alone
  cases strategy : (r.monitor i).settings.strategy with
  | substitute =>
    rw [Rig.enable_of_substitute inactive strategy]
    simp [Context.observers, Primitive.observers, Primitive.monitors, bare, unhooked,
      Observer.monitor?]
  | hooks =>
    rw [Rig.enable_of_hooks inactive strategy]
    simp [Context.observers, Primitive.observers, bare, Observer.monitor?]

namespace Discipline

/-- A call that `owner` makes. -/
structure Request where
  owner : Owner
  handle : Nat
  call : Call
  deriving DecidableEq, Repr

namespace Request

/-- The touch by which a call is made through context `x`. -/
def touch (x : Nat) (q : Request) : Touch := .call q.owner x q.handle q.call

/-- What a call amounts to that was answered.  A call that was not made is no operation. -/
def operation? (q : Request) (a : Reply) : Option Operation :=
  match q.call, a with
  | .init, .done => some .init
  | .free, .done => some .free
  | .lock, .status s => some (.lock s.succeeded)
  | .unlock, .status _ => some .unlock
  | _, _ => none

end Request

/-- The operations, with their handles, that calls and their answers amount to. -/
def operations : List Request → List Reply → List (Nat × Operation)
  | q :: qs, a :: as => (q.operation? a).toList.map (q.handle, ·) ++ operations qs as
  | _, _ => []

/-- What handle `m` goes through in a sequence of operations on all handles. -/
def word (m : Nat) (ops : List (Nat × Operation)) : List Operation :=
  (ops.filter (·.1 = m)).map Prod.snd

theorem word_append (m : Nat) (ops ops' : List (Nat × Operation)) :
  word m (ops ++ ops') = word m ops ++ word m ops'
  := by simp [word]

theorem word_cons_self (m : Nat) (op : Operation) (ops : List (Nat × Operation)) :
  word m ((m, op) :: ops) = op :: word m ops
  := by simp [word]

theorem word_concat_self (m : Nat) (ops : List (Nat × Operation)) (op : Operation) :
  word m (ops ++ [(m, op)]) = word m ops ++ [op]
  := by simp [word]

theorem word_concat_of_ne {m n : Nat} (ops : List (Nat × Operation)) (op : Operation)
    (other : n ≠ m) :
  word n (ops ++ [(m, op)]) = word n ops
  := by simp [word, other.symm]

theorem word_map (m n : Nat) (ops : List Operation) :
  word m (ops.map (n, ·)) = if m = n then ops else []
  := by
  by_cases here : m = n
  · simp [word, here, List.filter_map, Function.comp_def]
  · simp [word, here, Ne.symm here, List.filter_map, Function.comp_def]

/-! ### The invariant -/

/-- What a sequence of operations has left of the handles and of sink `s`: no violation is
pending and every handle is in the state that its word leads to, or the violation is pending
for which the first operation is to blame that left a word illegal. -/
inductive Accounted (s : Nat) (r : Rig CaseRecord) (ops : List (Nat × Operation)) : Prop
  | clean :
      (r.sink s).violation = none →
      (∀ m, ∃ t, word m ops ∈ (reached t).matches' ∧ (r.handle m).byte = t.byte) →
      Accounted s r ops
  | faulty {pre post : List (Nat × Operation)} {m : Nat} {op : Operation} {v : Violation} :
      ops = pre ++ (m, op) :: post → (∀ n, Legal (word n pre)) → Blame (word m pre) op v →
      (r.sink s).violation = some v →
      Accounted s r ops

/-- Operations that come after a violation do not matter, as long as it is pending. -/
theorem Accounted.later {s : Nat} {r r' : Rig CaseRecord} {ops ops' : List (Nat × Operation)}
    {v : Violation} (h : Accounted s r ops) (pending : (r.sink s).violation = some v)
    (kept : (r'.sink s).violation = some v) :
  Accounted s r' (ops ++ ops')
  := by
  cases h with
  | clean none => cases none.symm.trans pending
  | faulty split legal blame first =>
    obtain rfl : _ = v := Option.some.inj (first.symm.trans pending)
    rw [split, List.append_assoc, List.cons_append]
    apply Accounted.faulty rfl legal blame kept

/-- A legal operation leads its handle to the state that its word leads to. -/
theorem Accounted.count {s i m : Nat} {r : Rig CaseRecord} {ops : List (Nat × Operation)}
    {op : Operation} {c : Change} (h : Accounted s r ops)
    (changes : transition (r.handle m).byte op = .ok c) :
  Accounted s ((r.setHandle m ((r.handle m).mark c.next)).adjust i (·.count c.delta))
    (ops ++ [(m, op)])
  := by
  cases h with
  | clean none states =>
    apply Accounted.clean
    · apply none
    · intro n
      by_cases here : n = m
      · subst here
        obtain ⟨t, reaches, byte⟩ := states n
        rw [byte, transition_byte] at changes
        use c.next
        constructor
        · rw [word_concat_self]
          apply concat_mem_reached reaches
          rw [next, changes]
          rfl
        · simp [Rig.adjust, Rig.setMonitor, Rig.setHandle, Handle.mark]
      · simpa [word_concat_of_ne _ _ here, Rig.adjust, Rig.setMonitor, Rig.setHandle, here]
          using states n
  | faulty split legal blame pending =>
    apply (Accounted.faulty split legal blame pending).later pending
    apply pending

/-- A violation that is reported is the first, or another one is pending already. -/
theorem Accounted.report {s i m : Nat} {r : Rig CaseRecord} {ops : List (Nat × Operation)}
    {op : Operation} {v : Violation} (h : Accounted s r ops) (sink : (r.monitor i).sink = s)
    (changes : transition (r.handle m).byte op = .error v) :
  Accounted s (r.report silent i op v) (ops ++ [(m, op)])
  := by
  rw [Rig.report_eq]
  cases h with
  | clean none states =>
    obtain ⟨t, reaches, byte⟩ := states m
    rw [byte, transition_byte] at changes
    refine Accounted.faulty rfl ?_ (blame_of_transition reaches changes) ?_
    · intro n
      obtain ⟨t, reaches, -⟩ := states n
      apply legal_of_mem_reached reaches
    · simp [sink, Sink.receive, CaseRecord.record, none]
  | faulty split legal blame pending =>
    apply (Accounted.faulty split legal blame pending).later pending
    simp [sink, Sink.receive, CaseRecord.record, pending]

/-- Monitor `i` with sink `s` has followed the operations made through context `x`. -/
structure Followed (i x s : Nat) (r : Rig CaseRecord) (ops : List (Nat × Operation)) :
    Prop where
  sole : (r.context x).observers.filterMap Observer.monitor? = [i]
  free : (r.monitor i).tally.held = false
  sink : (r.monitor i).sink = s
  accounted : Accounted s r ops

namespace Followed

variable {i x s m : Nat} {r r' : Rig CaseRecord} {ops : List (Nat × Operation)}

/-- Whatever leaves contexts, monitors, sinks and bytes as they are does not matter. -/
theorem congr (h : Followed i x s r ops) (context : r'.context = r.context)
    (monitor : r'.monitor = r.monitor) (sink : r'.sink = r.sink)
    (byte : ∀ m, (r'.handle m).byte = (r.handle m).byte) :
  Followed i x s r' ops
  := by
  constructor
  · rw [context, h.sole]
  · rw [monitor, h.free]
  · rw [monitor, h.sink]
  · cases h.accounted with
    | clean none states =>
      apply Accounted.clean
      · rw [sink, none]
      · intro m
        rw [byte]
        apply states
    | faulty split legal blame pending =>
      apply Accounted.faulty split legal blame
      rw [sink, pending]

/-- An observation is one more operation. -/
theorem observe (h : Followed i x s r ops) (op : Operation) (m : Nat) :
  Followed i x s (r.observe silent i op m) (ops ++ [(m, op)])
  := by
  have keeps := Rig.Keeps.observe (r := r) i op m
  constructor
  · rw [keeps.context, h.sole]
  · rw [keeps.held, h.free]
  · rw [keeps.sink, h.sink]
  · cases changes : transition (r.handle m).byte op with
    | ok c =>
      rw [Rig.observe_of_ok h.free changes]
      apply h.accounted.count changes
    | error v =>
      rw [Rig.observe_of_error h.free changes]
      apply h.accounted.report h.sink changes

theorem recorder (h : Followed i x s r ops) (n : Notice) (m k : Nat) :
  Followed i x s (r.notify silent n m (.recorder k)) ops
  := by
  apply h.congr
  · rfl
  · rfl
  · rfl
  · intro m
    rfl

/-- Those who are no monitors change nothing that matters. -/
theorem notifyAll_of_none (h : Followed i x s r ops) (n : Notice) (m : Nat)
    {os : List Observer} (none : os.filterMap Observer.monitor? = []) :
  Followed i x s (r.notifyAll silent n m os) ops
  := by
  induction os generalizing r with
  | nil => apply h
  | cons o os ih =>
    cases o with
    | monitor j => cases none
    | recorder k =>
      apply ih (h.recorder n m k) none

/-- If monitor `i` is the only one among those who are told, then what they are told is one
more operation. -/
theorem notifyAll (h : Followed i x s r ops) (n : Notice) (m : Nat) {os : List Observer}
    (sole : os.filterMap Observer.monitor? = [i]) :
  Followed i x s (r.notifyAll silent n m os) (ops ++ [(m, n.operation)])
  := by
  induction os generalizing r with
  | nil => cases sole
  | cons o os ih =>
    cases o with
    | monitor j =>
      obtain ⟨rfl, none⟩ := List.cons.inj sole
      apply (h.observe n.operation m).notifyAll_of_none n m none
    | recorder k =>
      apply ih (h.recorder n m k) sole

/-- The work of the bare primitive does not matter. -/
theorem serveBare (h : Followed i x s r ops) (o : Owner) (p : Primitive) (m : Nat)
    (c : Call) :
  Followed i x s (r.serveBare o p m c).2 ops
  := by
  obtain ⟨handle, script, served, byte⟩ := Rig.serveBare_eq (r := r) o p m c
  rw [served]
  apply h.congr
  · rfl
  · rfl
  · rfl
  · apply byte

/-- A call is one more operation, unless it is not made. -/
theorem call (h : Followed i x s r ops) (q : Request) :
  Followed i x s (r.call silent q.owner x q.handle q.call).2
    (ops ++ (q.operation? (r.call silent q.owner x q.handle q.call).1).toList.map
      (q.handle, ·))
  := by
  have sole : ((r.context x).primitive.observers (r.context x).hook).filterMap
      Observer.monitor? = [i] := h.sole
  have reverse : ((r.context x).primitive.observers
      (r.context x).hook).reverse.filterMap Observer.monitor? = [i] := by
    rw [List.filterMap_reverse, sole]
    rfl
  obtain ⟨o, m, c⟩ := q
  rw [Rig.call_eq_serve, Rig.serve.eq_def]
  by_cases waits : r.blocks (r.context x).primitive m c = true
  · cases c with
    | lock => simpa [waits, Request.operation?] using h
    | _ => simp [Rig.blocks] at waits
  · simp only [waits]
    cases c with
    | init => apply (h.serveBare o _ m .init).notifyAll .initialised m sole
    | free => apply (h.notifyAll .freeing m reverse).serveBare
    | lock => apply (h.serveBare o _ m .lock).notifyAll (.locked _) m sole
    | unlock => apply (h.notifyAll .unlocking m reverse).serveBare

/-- So are any number of calls. -/
theorem performAll (h : Followed i x s r ops) (qs : List Request) :
  Followed i x s (Touch.performAll silent r (qs.map (Request.touch x))).2
    (ops ++ operations qs (Touch.performAll silent r (qs.map (Request.touch x))).1)
  := by
  induction qs generalizing r ops with
  | nil => simpa [Touch.performAll, operations] using h
  | cons q qs ih =>
    rw [List.map_cons, Touch.performAll, operations, ← List.append_assoc]
    apply ih (h.call q)

/-- A monitor that is enabled on a context that no monitor observes follows it from then
on. -/
theorem enable (inactive : (r.monitor i).replaced = none)
    (free : (r.monitor i).tally.held = false)
    (alone : ∀ j, .monitor j ∉ (r.context x).observers)
    (clean : (r.sink (r.monitor i).sink).violation = none)
    (zeroed : ∀ m, (r.handle m).byte = 0) :
  Followed i x (r.monitor i).sink (r.enable i x).2 []
  := by
  have sole := Rig.sole_enable inactive alone
  obtain ⟨_, old, d, primitives, s', enabled⟩ := Rig.enable_eq (x := x) inactive
  rw [enabled] at sole ⊢
  constructor
  · apply sole
  · simpa using free
  · simp
  · apply Accounted.clean
    · apply clean
    · intro m
      use .freed
      constructor
      · apply Language.nil_mem_kstar
      · apply zeroed

end Followed

/-- Detection is exact.  After any calls through the context of an enabled monitor, on
handles that were zeroed, no violation is pending exactly if the word of every handle is
legal; otherwise the violation is pending for which the first operation is to blame that
left a word illegal. -/
theorem pending_eq_none_iff_legal {r : Rig CaseRecord} {i x : Nat}
    (inactive : (r.monitor i).replaced = none) (free : (r.monitor i).tally.held = false)
    (alone : ∀ j, .monitor j ∉ (r.context x).observers)
    (clean : (r.sink (r.monitor i).sink).violation = none)
    (zeroed : ∀ m, (r.handle m).byte = 0) (qs : List Request) :
  let run := Touch.performAll silent (r.enable i x).2 (qs.map (Request.touch x))
  let ops := operations qs run.1
  let pending := (run.2.sink (r.monitor i).sink).violation
  (pending = none ↔ ∀ m, Legal (word m ops))
    ∧ ((∃ m, ¬ Legal (word m ops)) →
      ∃ pre m op post v, ops = pre ++ (m, op) :: post ∧ (∀ n, Legal (word n pre))
        ∧ ¬ Legal (word m pre ++ [op]) ∧ Blame (word m pre) op v ∧ pending = some v)
  := by
  intro run ops pending
  have followed : Followed i x (r.monitor i).sink run.2 ops :=
    (Followed.enable inactive free alone clean zeroed).performAll qs
  cases followed.accounted with
  | clean none states =>
    have legal : ∀ m, Legal (word m ops) := by
      intro m
      obtain ⟨t, reaches, -⟩ := states m
      apply legal_of_mem_reached reaches
    constructor
    · exact ⟨fun _ => legal, fun _ => none⟩
    · rintro ⟨m, illegal⟩
      exact absurd (legal m) illegal
  | @faulty pre post m op v split legal blame first =>
    constructor
    · constructor
      · intro none
        cases first.symm.trans none
      · intro all
        exfalso
        apply blame.not_legal
        apply (all m).of_continued
        use word m post
        rw [split, word_append, word_cons_self]
        simp
    · intro _
      use pre, m, op, post, v, split, legal, blame.not_legal, blame, first

/-- A handle that is locked, freed too early, and then used properly, beside another one. -/
def hasty : List Request :=
  [⟨.worker 0, 0, .init⟩, ⟨.worker 0, 1, .init⟩, ⟨.worker 0, 0, .lock⟩, ⟨.worker 1, 0, .free⟩,
    ⟨.worker 0, 0, .unlock⟩, ⟨.worker 1, 1, .unlock⟩, ⟨.worker 0, 0, .free⟩]

/-- The rig with an enabled monitor on which they are called. -/
def workshop : Rig CaseRecord where
  handle _ := {}
  script _ := {}
  context _ := { primitive := .bare 0 .scripted }
  monitor _ := { sink := 0, settings := { strategy := .hooks, guardPolicy := .skipWhenBusy } }
  sink _ := .fresh
  slot _ := {}
  primitives := []
  started := 0
  transcript := []

/-- The pending violation is the first one, and the handle to blame has an illegal word. -/
theorem pending_of_hasty :
  let run := Touch.performAll silent (workshop.enable 0 0).2 (hasty.map (Request.touch 0))
  (run.2.sink 0).violation = some .freeWithoutUnlock
    ∧ ∃ m, ¬ Legal (word m (operations hasty run.1))
  := by
  intro run
  have pending : (run.2.sink 0).violation = some .freeWithoutUnlock := by decide +kernel
  obtain ⟨none_iff, -⟩ := pending_eq_none_iff_legal (r := workshop) (i := 0) (x := 0) rfl rfl
    nofun rfl (fun _ => rfl) hasty
  use pending
  by_contra legal
  simp only [not_exists, not_not] at legal
  cases (none_iff.mpr legal).symm.trans pending

end Discipline

end LockDiscipline
