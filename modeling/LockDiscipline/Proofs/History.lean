import Mathlib.Data.List.Induction
import LockDiscipline.Session.Step

/-!
# The history of a case record

A history is a list of `Remark`s, everything that was done with a case record in order.  The
record that it leaves can be read off the history (`Remark.history`), as far as it comes after
the last reset: what is pending is the first violation after the last clear, the step is the
last one, the verdict is that of the last failure or skip, and the failure is the last skip, or
the first failure that no skip follows.  Each part depends on its own remarks only
(`Remark.part_foldl_filter`).
-/

namespace LockDiscipline

/-- Something that is done with a case record. -/
inductive Remark where
  | fail (f : Failure)
  | skip (f : Failure)
  | setStep (n : Nat)
  | record (v : Violation)
  | clear
  | reset
  deriving DecidableEq, Repr

/-- What comes in a list after the last element with a property, or the whole list if there is
none. -/
def sinceLast {α : Type} (p : α → Bool) (l : List α) : List α :=
  (l.reverse.takeWhile fun a => !p a).reverse

theorem sinceLast_concat {α : Type} (p : α → Bool) (l : List α) (a : α) :
  sinceLast p (l ++ [a]) = if p a then [] else sinceLast p l ++ [a]
  := by
  cases holds : p a with
  | true => simp [sinceLast, holds]
  | false => simp [sinceLast, holds]

namespace Remark

/-- The record after a remark. -/
def apply (c : CaseRecord) : Remark → CaseRecord
  | fail f => Sink.receive c (.fail f)
  | skip f => RecordChange.apply c (.skip f)
  | setStep n => RecordChange.apply c (.setStep n)
  | record v => Sink.receive c (.record v)
  | clear => Sink.receive c .clear
  | reset => Sink.receive c .reset

/-- A failure is kept only by a case that has not failed before. -/
theorem receive_fail (c : CaseRecord) (f : Failure) :
  Sink.receive c (.fail f)
    = { c with
        verdict := .failed
        failure := if c.verdict = .failed then c.failure else some f }
  := by
  obtain ⟨verdict, failure, step, violation⟩ := c
  by_cases failed : verdict = .failed
  · simp [Sink.receive, CaseRecord.fail, failed]
  · simp [Sink.receive, CaseRecord.fail, failed]

/-! ### What a remark says -/

/-- The failure that a remark tells of. -/
def failed? : Remark → Option Failure
  | fail f => some f
  | _ => none

/-- The reason for which a remark skips the case. -/
def skipped? : Remark → Option Failure
  | skip f => some f
  | _ => none

/-- The verdict that a remark gives. -/
def judged? : Remark → Option Verdict
  | fail _ => some .failed
  | skip _ => some .skipped
  | _ => none

/-- The step that a remark sets. -/
def stepped? : Remark → Option Nat
  | setStep n => some n
  | _ => none

/-- The violation that a remark records. -/
def recorded? : Remark → Option Violation
  | record v => some v
  | _ => none

/-- Whether a remark is about the verdict and the failure. -/
def judges : Remark → Bool
  | fail _ | skip _ | reset => true
  | _ => false

/-- Whether a remark is about the step. -/
def steps : Remark → Bool
  | setStep _ | reset => true
  | _ => false

/-- Whether a remark is about the pending violation. -/
def accuses : Remark → Bool
  | record _ | clear | reset => true
  | _ => false

/-! ### What a history says -/

/-- The first violation that was recorded since the last clear. -/
def pending (ns : List Remark) : Option Violation :=
  (sinceLast (· = clear) ns).findSome? recorded?

/-- The last step that was set. -/
def reached (ns : List Remark) : Option Nat := ns.reverse.findSome? stepped?

/-- The verdict of the last failure or skip, and that the case has passed if there is none. -/
def verdict (ns : List Remark) : Verdict := (ns.reverse.findSome? judged?).getD .passed

/-- The first failure since the last skip. -/
def firstFailure (ns : List Remark) : Option Failure :=
  (sinceLast (·.skipped?.isSome) ns).findSome? failed?

/-- The last skip. -/
def lastSkip (ns : List Remark) : Option Failure := ns.reverse.findSome? skipped?

/-- The failure that explains the verdict. -/
def failure (ns : List Remark) : Option Failure :=
  match verdict ns with
  | .passed => none
  | .failed => firstFailure ns
  | .skipped => lastSkip ns

/-- The record that a history without a reset leaves. -/
def history (ns : List Remark) : CaseRecord where
  verdict := verdict ns
  failure := failure ns
  step := reached ns
  violation := pending ns

/-! ### One more remark -/

variable (ns : List Remark) (n : Remark)

theorem pending_concat :
  pending (ns ++ [n]) = if n = clear then none else (pending ns).or n.recorded?
  := by
  rw [pending, sinceLast_concat]
  by_cases clears : n = clear
  · simp [clears]
  · simp [clears, pending, List.findSome?_append]

theorem reached_concat :
  reached (ns ++ [n]) = n.stepped?.or (reached ns)
  := by
  cases told : n.stepped? with
  | none => simp [reached, told]
  | some k => simp [reached, told]

theorem verdict_concat :
  verdict (ns ++ [n]) = n.judged?.getD (verdict ns)
  := by
  cases told : n.judged? with
  | none => simp [verdict, told]
  | some v => simp [verdict, told]

theorem lastSkip_concat :
  lastSkip (ns ++ [n]) = n.skipped?.or (lastSkip ns)
  := by
  cases told : n.skipped? with
  | none => simp [lastSkip, told]
  | some f => simp [lastSkip, told]

theorem firstFailure_concat :
  firstFailure (ns ++ [n])
    = if n.skipped?.isSome then none else (firstFailure ns).or n.failed?
  := by
  rw [firstFailure, sinceLast_concat]
  cases told : n.skipped? with
  | none => simp [firstFailure, List.findSome?_append]
  | some f => simp

/-- A case has failed exactly if there is a failure that no skip follows. -/
theorem verdict_eq_failed_iff (ns : List Remark) :
  verdict ns = .failed ↔ (firstFailure ns).isSome
  := by
  induction ns using List.reverseRecOn with
  | nil => simp [verdict, firstFailure, sinceLast]
  | append_singleton ns n ih =>
    rw [verdict_concat, firstFailure_concat]
    cases n with
    | fail f => simp [judged?, skipped?, failed?]
    | skip f => simp [judged?, skipped?]
    | _ => simpa [judged?, skipped?, failed?] using ih

/-- A remark that gives no verdict leaves the failure. -/
theorem failure_concat_of_unjudged {n : Remark} (unjudged : n.judged? = none) :
  failure (ns ++ [n]) = failure ns
  := by
  have silent : n.skipped? = none ∧ n.failed? = none := by
    cases n with
    | fail f => cases unjudged
    | skip f => cases unjudged
    | _ => exact ⟨rfl, rfl⟩
  rw [failure, verdict_concat, firstFailure_concat, lastSkip_concat, unjudged, silent.1, silent.2]
  simp [failure]

/-- One more failure counts unless the case has failed already. -/
theorem failure_concat_fail (f : Failure) :
  failure (ns ++ [fail f]) = if verdict ns = .failed then failure ns else some f
  := by
  have first : failure (ns ++ [fail f]) = (firstFailure ns).or (some f) := by
    rw [failure, verdict_concat, firstFailure_concat]
    rfl
  rw [first]
  cases found : firstFailure ns with
  | none =>
    have unfailed : verdict ns ≠ .failed := by simp [verdict_eq_failed_iff, found]
    simp [unfailed]
  | some g =>
    have failed : verdict ns = .failed := by simp [verdict_eq_failed_iff, found]
    simp [failed, failure, found]

/-- A remark other than a reset leads from the record of a history to that of the longer one. -/
theorem history_concat {n : Remark} (goes : n ≠ reset) :
  history (ns ++ [n]) = apply (history ns) n
  := by
  rw [history, pending_concat, reached_concat, verdict_concat]
  cases n with
  | fail f =>
    have verdict : (history ns).verdict = Remark.verdict ns := rfl
    rw [failure_concat_fail, apply, receive_fail, verdict]
    simp [history, judged?, stepped?, recorded?]
  | skip f =>
    have skipped : failure (ns ++ [skip f]) = some f := by
      rw [failure, verdict_concat, lastSkip_concat]
      rfl
    rw [skipped]
    simp [history, apply, RecordChange.apply, CaseRecord.skip, judged?, stepped?, recorded?]
  | setStep k =>
    rw [failure_concat_of_unjudged ns rfl]
    simp [history, apply, RecordChange.apply, CaseRecord.setStep, judged?, stepped?, recorded?]
  | record v =>
    rw [failure_concat_of_unjudged ns rfl]
    simp [history, apply, Sink.receive, CaseRecord.record, judged?, stepped?, recorded?]
  | clear =>
    rw [failure_concat_of_unjudged ns rfl]
    simp [history, apply, Sink.receive, CaseRecord.clear, judged?, stepped?]
  | reset => exact absurd rfl goes

/-- The remarks since the last reset say what the record holds. -/
theorem foldl_apply_eq_history (ns : List Remark) :
  ns.foldl apply .fresh = history (sinceLast (· = reset) ns)
  := by
  induction ns using List.reverseRecOn with
  | nil => rfl
  | append_singleton ns n ih =>
    rw [List.foldl_append, List.foldl_cons, List.foldl_nil, ih, sinceLast_concat]
    by_cases resets : n = reset
    · subst resets
      rfl
    · simp [resets, history_concat _ resets]

/-! ### Parts of the record -/

/-- The verdict with its failure. -/
def judgement (c : CaseRecord) : Verdict × Option Failure := (c.verdict, c.failure)

/-- If a part of the record is changed only by remarks with a property, and then depends on
itself only, it does so after any number of remarks. -/
theorem part_foldl_filter {α : Type} {part : CaseRecord → α} {p : Remark → Bool}
    (others : ∀ c n, p n = false → part (apply c n) = part c)
    (own : ∀ c c' n, part c = part c' → part (apply c n) = part (apply c' n))
    (ns : List Remark) {c c' : CaseRecord} (same : part c = part c') :
  part (ns.foldl apply c) = part ((ns.filter p).foldl apply c')
  := by
  induction ns generalizing c c' with
  | nil => exact same
  | cons n ns ih =>
    cases about : p n with
    | true =>
      rw [List.filter_cons_of_pos about, List.foldl_cons, List.foldl_cons]
      exact ih (own c c' n same)
    | false =>
      rw [List.filter_cons_of_neg (by simp [about]), List.foldl_cons]
      exact ih ((others c n about).trans same)

/-- The pending violation depends on what is recorded and cleared. -/
theorem violation_foldl_filter (ns : List Remark) (c : CaseRecord) :
  (ns.foldl apply c).violation = ((ns.filter accuses).foldl apply c).violation
  := by
  refine part_foldl_filter ?_ ?_ ns rfl
  · intro c n other
    cases n with
    | fail f => rw [apply, receive_fail]
    | record v | clear | reset => cases other
    | _ => rfl
  · intro c c' n same
    cases n with
    | fail f => rw [apply, apply, receive_fail, receive_fail, same]
    | record v => simp [apply, Sink.receive, CaseRecord.record, same]
    | clear | reset => rfl
    | _ => exact same

/-- The step depends on the steps that are set. -/
theorem step_foldl_filter (ns : List Remark) (c : CaseRecord) :
  (ns.foldl apply c).step = ((ns.filter steps).foldl apply c).step
  := by
  refine part_foldl_filter ?_ ?_ ns rfl
  · intro c n other
    cases n with
    | fail f => rw [apply, receive_fail]
    | setStep k | reset => cases other
    | _ => rfl
  · intro c c' n same
    cases n with
    | fail f => rw [apply, apply, receive_fail, receive_fail, same]
    | setStep k | reset => rfl
    | _ => exact same

/-- The verdict and its failure depend on failures and skips. -/
theorem judgement_foldl_filter (ns : List Remark) (c : CaseRecord) :
  judgement (ns.foldl apply c) = judgement ((ns.filter judges).foldl apply c)
  := by
  refine part_foldl_filter ?_ ?_ ns rfl
  · intro c n other
    cases n with
    | fail f | skip f | reset => cases other
    | _ => rfl
  · intro c c' n same
    obtain ⟨verdict, failure⟩ := Prod.mk.inj same
    cases n with
    | fail f =>
      rw [apply, apply, receive_fail, receive_fail, judgement, judgement, verdict, failure]
    | skip f | reset => rfl
    | _ => exact same

/-- A case record is its history.  Of the remarks since the last reset, the first violation that
was recorded after the last clear is pending, and the last step stands.  The verdict is that of
the last failure or skip.  A case that was skipped has the last skip for a failure, a case that
has failed the first failure that no skip follows, and a case that has passed none.  The three
parts do not influence each other: each of them is what it would be without the remarks that are
about the others. -/
theorem foldl_apply_eq (ns : List Remark) :
  let c := ns.foldl apply .fresh
  let since := sinceLast (· = reset) ns
  c.violation = (sinceLast (· = clear) since).findSome? recorded?
    ∧ c.step = since.reverse.findSome? stepped?
    ∧ c.verdict = (since.reverse.findSome? judged?).getD .passed
    ∧ c.failure =
      (match c.verdict with
        | .passed => none
        | .failed => (sinceLast (·.skipped?.isSome) since).findSome? failed?
        | .skipped => since.reverse.findSome? skipped?)
    ∧ c.violation = ((ns.filter accuses).foldl apply .fresh).violation
    ∧ c.step = ((ns.filter steps).foldl apply .fresh).step
    ∧ judgement c = judgement ((ns.filter judges).foldl apply .fresh)
  := by
  intro c since
  have read : c = history since := foldl_apply_eq_history ns
  refine ⟨?_, ?_, ?_, ?_, violation_foldl_filter ns _, step_foldl_filter ns _,
    judgement_foldl_filter ns _⟩
  · exact congrArg CaseRecord.violation read
  · exact congrArg CaseRecord.step read
  · exact congrArg CaseRecord.verdict read
  · rw [read]
    rfl

/-- The second failure after a skip is not kept. -/
example (f g h : Failure) : (history [.fail f, .skip g, .fail h, .fail f]).failure = some h := rfl

end Remark

end LockDiscipline
