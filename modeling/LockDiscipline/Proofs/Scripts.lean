import LockDiscipline.Proofs.History
import LockDiscipline.Proofs.Transparency

/-!
# The books of a script

A scripted primitive is called directly, and its script is changed, in any order (`Cue`).  A
`Scene` is a cue together with the script that it met and the answer to it.

* A cue takes an answer off the front of the queue that it asks, puts one at the end, or leaves
  the queue (`Rig.queue_play`).  Hence what a queue has handed out, followed by what it still
  holds, is what was queued (`Rig.queue_rehearse`).
* A call is always answered, by success if the queue is empty, and noted with its answer
  (`Rig.play_call`).  Hence the calls that are noted are those since they were last cleared
  (`Rig.calls_rehearse`).

The two queues are `Script.queue`, one for each kind of call.
-/

namespace LockDiscipline

/-- Something that is done with a scripted primitive: a change of its script, or a call. -/
inductive Cue where
  | change (c : ScriptChange)
  | call (o : Owner) (m : Nat) (c : Call)
  deriving DecidableEq, Repr

/-- A cue with the script that it met and the answer to it. -/
structure Scene where
  cue : Cue
  script : Script
  reply : Reply
  deriving DecidableEq, Repr

/-- The answers that are queued for a kind of call. -/
def Script.queue (q : Script) : Call → List Status
  | .lock => q.lockResults
  | .unlock => q.unlockResults
  | .init | .free => []

/-- The answer that a change of a script queues for a kind of call. -/
def ScriptChange.queued? : Call → ScriptChange → Option Status
  | .lock, .pushLock s | .unlock, .pushUnlock s => some s
  | _, _ => none

namespace Cue

/-- The answer that a cue queues for a kind of call. -/
def queued? (c : Call) : Cue → Option Status
  | change d => d.queued? c
  | call _ _ _ => none

/-- The kind of call that a cue is. -/
def call? : Cue → Option Call
  | change _ => none
  | call _ _ c => some c

end Cue

namespace Scene

/-- The answer that a scene takes from the queue for a kind of call, unless it is empty. -/
def handed? (c : Call) (x : Scene) : Option Status :=
  match x.reply with
  | .status s => if x.cue.call? = some c ∧ x.script.queue c ≠ [] then some s else none
  | _ => none

/-- The call that a scene is, with the answer to it. -/
def served? (x : Scene) : Option ServedCall := x.cue.call?.bind fun c => c.served? x.reply

/-- Whether a scene clears the calls noted so far. -/
def clears (x : Scene) : Bool := x.cue = .change .clearCalls

end Scene

namespace Script

variable {q : Script}

/-- A call takes its answer off the front of its queue; an empty queue answers success. -/
theorem queue_serve_self (q : Script) (c : Call) :
  (q.queue c = [] ∧ (q.serve c).1 = .ok ∧ (q.serve c).2.queue c = [])
    ∨ q.queue c = (q.serve c).1 :: (q.serve c).2.queue c
  := by
  obtain ⟨locks, unlocks, calls⟩ := q
  cases c with
  | init | free =>
    left
    exact ⟨rfl, rfl, rfl⟩
  | lock =>
    cases locks with
    | nil =>
      left
      exact ⟨rfl, rfl, rfl⟩
    | cons s rest =>
      right
      rfl
  | unlock =>
    cases unlocks with
    | nil =>
      left
      exact ⟨rfl, rfl, rfl⟩
    | cons s rest =>
      right
      rfl

/-- It leaves every other queue. -/
theorem queue_serve_of_ne {c d : Call} (other : c ≠ d) :
  (q.serve d).2.queue c = q.queue c
  := by
  cases d with
  | init | free => cases c <;> rfl
  | lock =>
    cases c with
    | lock => exact absurd rfl other
    | init | free | unlock => rfl
  | unlock =>
    cases c with
    | unlock => exact absurd rfl other
    | init | free | lock => rfl

/-- A change of a script puts what it queues at the end. -/
theorem queue_apply (c : Call) (d : ScriptChange) :
  (d.apply q).queue c = q.queue c ++ (d.queued? c).toList
  := by
  cases d with
  | pushLock s | pushUnlock s => cases c <;> simp [ScriptChange.apply, ScriptChange.queued?, queue,
      pushLock, pushUnlock]
  | clearCalls => cases c <;> simp [ScriptChange.apply, ScriptChange.queued?, queue, clearCalls]

end Script

/-- A call that is answered by a script is served. -/
theorem Call.served?_reply (c : Call) (s : Status) :
  (c.served? (c.reply s)).isSome = true
  := by cases c <;> rfl

namespace Rig

variable {σ : Type} [Sink σ] {r : Rig σ}

/-- Follows a cue for the scripted primitive `n`. -/
def play (n : Nat) (r : Rig σ) : Cue → Reply × Rig σ
  | .change d => (.done, r.setScript n (d.apply (r.script n)))
  | .call o m c => r.callDirectly silent o (.bare n .scripted) m c

/-- The scene that a cue for the scripted primitive `n` makes. -/
def scene (n : Nat) (r : Rig σ) (x : Cue) : Scene := ⟨x, r.script n, (r.play n x).1⟩

/-- Follows cues for the scripted primitive `n`, one after another. -/
def rehearse (n : Nat) (r : Rig σ) : List Cue → List Scene × Rig σ
  | [] => ([], r)
  | x :: xs =>
    let (scenes, last) := (r.play n x).2.rehearse n xs
    (r.scene n x :: scenes, last)

theorem rehearse_concat (n : Nat) (r : Rig σ) (xs : List Cue) (x : Cue) :
  r.rehearse n (xs ++ [x]) = ((r.rehearse n xs).1 ++ [(r.rehearse n xs).2.scene n x],
    ((r.rehearse n xs).2.play n x).2)
  := by
  induction xs generalizing r with
  | nil => rfl
  | cons y ys ih => simp only [List.cons_append, rehearse, ih]

/-! ### One cue -/

/-- A scripted primitive answers from its script, and changes nothing else. -/
theorem play_call (n : Nat) (o : Owner) (m : Nat) (c : Call) :
  r.play n (.call o m c)
    = (c.reply ((r.script n).serve c).1, r.setScript n ((r.script n).serve c).2)
  := by
  have lets : r.blocks (.bare n .scripted) m c = false := by simp [blocks, Primitive.kind]
  apply Eq.trans (callDirectly_base silent o (.bare n .scripted) m c)
  apply Eq.trans (if_neg (Bool.eq_false_iff.mp lets))
  rfl

/-- No cue changes a handle. -/
theorem handle_play (n : Nat) (x : Cue) :
  (r.play n x).2.handle = r.handle
  := by
  cases x with
  | change d => rfl
  | call o m c => rw [play_call, setScript]

/-- What a cue takes from a queue, followed by what is left there, is what was there, followed
by what the cue puts there. -/
theorem queue_play (n : Nat) (x : Cue) (c : Call) :
  ((r.scene n x).handed? c).toList ++ ((r.play n x).2.script n).queue c
    = (r.script n).queue c ++ (x.queued? c).toList
  := by
  cases x with
  | change d =>
    simp [scene, play, Scene.handed?, setScript, Script.queue_apply, Cue.queued?]
  | call o m d =>
    simp only [scene, play_call, setScript, Family.set_self, Cue.queued?, Option.toList_none,
      List.append_nil]
    by_cases asked : d = c
    · subst asked
      obtain ⟨dry, -, rest⟩ | full := (r.script n).queue_serve_self d
      · rw [dry, rest]
        cases d <;> simp [Scene.handed?, Call.reply, dry]
      · have wet : (r.script n).queue d ≠ [] := by simp [full]
        cases d with
        | init | free => cases full
        | lock | unlock => simp [Scene.handed?, Call.reply, Cue.call?, wet, ← full]
    · rw [Script.queue_serve_of_ne (Ne.symm asked)]
      cases d <;> simp [Scene.handed?, Call.reply, Cue.call?, asked]

/-- A cue notes the call that it is, unless it clears the notes. -/
theorem calls_play (n : Nat) (x : Cue) :
  ((r.play n x).2.script n).calls
    = if (r.scene n x).clears then [] else (r.script n).calls ++ (r.scene n x).served?.toList
  := by
  cases x with
  | change d =>
    cases d <;> simp [scene, play, Scene.clears, Scene.served?, Cue.call?, setScript,
      ScriptChange.apply, Script.pushLock, Script.pushUnlock, Script.clearCalls]
  | call o m c =>
    simp [scene, play_call, setScript, Script.calls_serve, Scene.clears, Scene.served?, Cue.call?]

/-- Every call is answered and noted, and answered success if its queue is empty. -/
theorem served_scene (n : Nat) (x : Cue) {c : Call} (asks : x.call? = some c) :
  (r.scene n x).served?.isSome = true
    ∧ ((r.script n).queue c = [] → (r.scene n x).reply = c.reply .ok)
  := by
  cases x with
  | change d => cases asks
  | call o m d =>
    obtain rfl := Option.some.inj asks
    constructor
    · simp [scene, play_call, Scene.served?, Cue.call?, Call.served?_reply]
    · intro dry
      rw [scene, play_call]
      obtain ⟨-, success, -⟩ | full := (r.script n).queue_serve_self d
      · rw [success]
      · cases dry.symm.trans full

/-! ### Any number of cues -/

theorem mem_rehearse {n : Nat} {xs : List Cue} {x : Scene} (mem : x ∈ (r.rehearse n xs).1) :
  ∃ (r' : Rig σ) (y : Cue), x = r'.scene n y
  := by
  induction xs generalizing r with
  | nil => cases mem
  | cons y ys ih =>
    obtain rfl | later := List.mem_cons.mp mem
    · exact ⟨r, y, rfl⟩
    · exact ih later

theorem map_cue_rehearse (n : Nat) (r : Rig σ) (xs : List Cue) :
  (r.rehearse n xs).1.map Scene.cue = xs
  := by
  induction xs generalizing r with
  | nil => rfl
  | cons x xs ih => exact congrArg (x :: ·) (ih _)

/-- No cues change a handle. -/
theorem handle_rehearse (n : Nat) (r : Rig σ) (xs : List Cue) :
  (r.rehearse n xs).2.handle = r.handle
  := by
  induction xs generalizing r with
  | nil => rfl
  | cons x xs ih => exact (ih _).trans (handle_play n x)

/-- What a queue has handed out, followed by what it still holds, is what it held, followed by
what was queued. -/
theorem queue_rehearse (n : Nat) (r : Rig σ) (xs : List Cue) (c : Call) :
  (r.rehearse n xs).1.filterMap (Scene.handed? c) ++ ((r.rehearse n xs).2.script n).queue c
    = (r.script n).queue c ++ xs.filterMap (Cue.queued? c)
  := by
  induction xs using List.reverseRecOn with
  | nil => simp [rehearse]
  | append_singleton xs x ih =>
    have last := queue_play (r := (r.rehearse n xs).2) n x c
    rw [rehearse_concat, List.filterMap_append, List.filterMap_append, ← List.append_assoc, ← ih,
      List.append_assoc, List.append_assoc]
    exact congrArg _ last

/-- The calls that are noted are those since they were last cleared. -/
theorem calls_rehearse (n : Nat) (empty : (r.script n).calls = []) (xs : List Cue) :
  ((r.rehearse n xs).2.script n).calls
    = (sinceLast Scene.clears (r.rehearse n xs).1).filterMap Scene.served?
  := by
  induction xs using List.reverseRecOn with
  | nil => exact empty
  | append_singleton xs x ih =>
    rw [rehearse_concat, calls_play, sinceLast_concat, ih]
    split
    · rfl
    · rw [List.filterMap_append]
      congr 1

/-- A script loses, doubles and reorders nothing.  However changes of a new script and calls are
mixed, the answers that a queue has handed out, followed by those that it still holds, are those
that were queued; a call that finds its queue empty is answered success; every call since the
calls were last cleared is noted with its answer, and no others; and no handle changes. -/
theorem rehearse_books {n : Nat} (fresh : r.script n = {}) (xs : List Cue) :
  let scenes := (r.rehearse n xs).1
  let last := (r.rehearse n xs).2
  scenes.map Scene.cue = xs
    ∧ (∀ c, scenes.filterMap (Scene.handed? c) ++ (last.script n).queue c
      = xs.filterMap (Cue.queued? c))
    ∧ (∀ x ∈ scenes, ∀ c, x.cue.call? = some c →
      x.served?.isSome = true ∧ (x.script.queue c = [] → x.reply = c.reply .ok))
    ∧ (last.script n).calls = (sinceLast Scene.clears scenes).filterMap Scene.served?
    ∧ last.handle = r.handle
  := by
  intro scenes last
  refine ⟨map_cue_rehearse n r xs, ?_, ?_, ?_, handle_rehearse n r xs⟩
  · intro c
    apply Eq.trans (queue_rehearse n r xs c)
    rw [fresh]
    cases c <;> rfl
  · intro x mem c asks
    obtain ⟨r', y, rfl⟩ := mem_rehearse mem
    exact served_scene n y asks
  · apply calls_rehearse
    rw [fresh]

/-- A rig with new scripts. -/
def stage : Rig CaseRecord := { theatre with script := fun _ => {} }

/-- A lock that finds nothing queued, answers that are queued for both kinds of calls, two more
locks, another answer, and calls that follow when those before were cleared. -/
def improvised : List Cue :=
  [.call (.worker 0) 0 .lock, .change (.pushLock (.refused .lockFailure)),
    .change (.pushUnlock (.refused .badInputData)), .call (.worker 1) 3 .lock,
    .call (.worker 0) 0 .lock, .change (.pushLock (.refused .badInputData)), .change .clearCalls,
    .call (.worker 0) 3 .unlock, .call (.worker 0) 0 .init, .call (.worker 1) 0 .unlock]

/-- One answer is left for a lock, and none for an unlock. -/
theorem rehearse_books_improvised :
  let last := (stage.rehearse 0 improvised).2
  stage.script 0 = {}
    ∧ [.refused .lockFailure] ++ (last.script 0).queue .lock
      = [.refused .lockFailure, .refused .badInputData]
    ∧ [.refused .badInputData] ++ (last.script 0).queue .unlock = [.refused .badInputData]
    ∧ (last.script 0).calls = [.unlock (.refused .badInputData), .init, .unlock .ok]
    ∧ last.handle = stage.handle
  := by
  obtain ⟨-, queues, -, calls, handles⟩ := rehearse_books (r := stage) (n := 0) rfl improvised
  refine ⟨rfl, ?_, ?_, calls.trans (by decide +kernel), handles⟩
  · exact (by decide +kernel : _ = _).trans (queues .lock)
  · exact (by decide +kernel : _ = _).trans (queues .unlock)

end Rig

end LockDiscipline
