import LockDiscipline.Proofs.Conservation
import LockDiscipline.Proofs.History

/-!
# Counting in words

A monitor counts in integers.  As long as it observes fewer than `2 ^ 63` operations it might
as well count in words of 64 bits: no sum and no difference that it forms leaves their range,
and what it reports is the exact difference.

What an incident does to the counters is an `Adjustment`, which `Tally.apply` makes in integers
and `Register.apply` in words.  Neither counter exceeds the number of observations, and the surplus
does not exceed the number of those since the last boundary (`Rig.Ranges`), although the
difference of two counters in range could.  Every occurrence keeps these bounds
(`Rig.ranges_occur`), and words that show the counters still do so after an adjustment whose
result is in range (`Register.Shows.apply`).

Bytes do not matter for any of this, and anybody may write to them at any time.
-/

namespace LockDiscipline

/-- What an incident does to the counters of a monitor. -/
inductive Adjustment where
  | count (d : Int)
  | settle
  | rebase
  | stay
  deriving DecidableEq, Repr

/-- The tally after an adjustment. -/
def Tally.apply (t : Tally) : Adjustment → Tally
  | .count d => t.count d
  | .settle => t.settle
  | .rebase => t.rebase
  | .stay => t

/-- Whether an integer is in the range of words. -/
def Fits (n : Int) : Prop := Int64.minValue.toInt ≤ n ∧ n ≤ Int64.maxValue.toInt

/-- A magnitude below `2 ^ 63` is in range. -/
theorem fits_of_natAbs_lt {n : Int} (small : n.natAbs < 2 ^ 63) :
  Fits n
  := by
  rw [Fits, Int64.toInt_minValue, Int64.toInt_maxValue]
  omega

/-- Nothing in range is wrapped around. -/
theorem Fits.bmod_eq {n : Int} (fits : Fits n) :
  n.bmod (2 ^ 64) = n
  := by
  rw [Fits, Int64.toInt_minValue, Int64.toInt_maxValue] at fits
  apply Int.bmod_eq_of_le
  · omega
  · omega

/-! ### Words -/

/-- The counters of a monitor as words, whose sums and differences wrap around. -/
structure Register where
  live : Int64 := 0
  baseline : Int64 := 0
  deriving DecidableEq, Repr

namespace Register

/-- The register after an adjustment. -/
def apply (w : Register) : Adjustment → Register
  | .count d => { w with live := w.live + Int64.ofInt d }
  | .settle => { w with live := w.baseline }
  | .rebase => { w with baseline := w.live }
  | .stay => w

/-- The difference of the counters. -/
def leaked (w : Register) : Int64 := w.live - w.baseline

/-- A register shows the counters of a tally. -/
structure Shows (w : Register) (t : Tally) : Prop where
  live : w.live.toInt = t.live
  baseline : w.baseline.toInt = t.baseline

namespace Shows

variable {w : Register} {t : Tally}

/-- A register still shows the counters after an adjustment whose result is in range. -/
theorem apply (h : w.Shows t) (x : Adjustment) (fits : Fits (t.apply x).live) :
  (w.apply x).Shows (t.apply x)
  := by
  obtain ⟨live, baseline⟩ := h
  cases x with
  | count d =>
    constructor
    · have sum : (w.live + Int64.ofInt d).toInt = (t.live + d).bmod (2 ^ 64) := by
        rw [Int64.toInt_add, Int64.toInt_ofInt, live]
        apply Int.add_bmod_bmod
      exact sum.trans fits.bmod_eq
    · exact baseline
  | settle => exact ⟨baseline, baseline⟩
  | rebase => exact ⟨live, live⟩
  | stay => exact ⟨live, baseline⟩

/-- The difference of the words is that of the counters, if it is in range. -/
theorem leaked (h : w.Shows t) (fits : Fits t.leaked) :
  w.leaked.toInt = t.leaked
  := by
  rw [Register.leaked, Int64.toInt_sub, h.live, h.baseline]
  exact fits.bmod_eq

end Shows

end Register

/-! ### Occurrences -/

/-- An incident, or something else that writes to a handle. -/
inductive Occurrence where
  | incident (e : Incident)
  | write (m : Nat) (b : UInt8)
  deriving DecidableEq, Repr

namespace Occurrence

/-- Whether an occurrence is an observation that takes place. -/
def observed : Occurrence → Bool
  | incident (.operation busy _ _) => !busy
  | _ => false

/-- Whether an occurrence ends the case. -/
def boundary : Occurrence → Bool
  | incident e => e.boundary
  | write _ _ => false

/-- The number of observations among occurrences. -/
def observations (xs : List Occurrence) : Nat := xs.countP observed

theorem observations_append (xs ys : List Occurrence) :
  observations (xs ++ ys) = observations xs + observations ys
  := List.countP_append

theorem observations_concat (xs : List Occurrence) (x : Occurrence) :
  observations (xs ++ [x]) = observations xs + x.observed.toNat
  := by
  rw [observations_append]
  cases holds : x.observed <;> simp [holds, observations]

/-- The number of observations since the last boundary. -/
def recent (xs : List Occurrence) : Nat := observations (sinceLast boundary xs)

theorem recent_concat (xs : List Occurrence) (x : Occurrence) :
  recent (xs ++ [x]) = if x.boundary then 0 else recent xs + x.observed.toNat
  := by
  rw [recent, sinceLast_concat]
  split
  · rfl
  · rw [observations_concat, recent]

theorem recent_le (xs : List Occurrence) :
  recent xs ≤ observations xs
  := by
  induction xs using List.reverseRecOn with
  | nil => exact Nat.le_refl _
  | append_singleton xs x ih =>
    rw [recent_concat, observations_concat]
    split
    · exact Nat.zero_le _
    · exact Nat.add_le_add_right ih _

end Occurrence

/-- A legal operation counts at most one handle. -/
theorem natAbs_delta_le {b : UInt8} {op : Operation} {c : Change}
    (legal : transition b op = .ok c) :
  c.delta.natAbs ≤ 1
  := by
  obtain ⟨-, rfl⟩ | ⟨-, -, rfl⟩ | ⟨-, -, rfl⟩ | ⟨-, -, rfl⟩ | ⟨-, -, rfl⟩ := legal_cases legal
  all_goals decide

namespace Rig

open Occurrence (observations recent)

variable {σ : Type} {r : Rig σ} {i : Nat}

/-- What an occurrence does to the counters. -/
def adjustment (r : Rig σ) : Occurrence → Adjustment
  | .incident (.operation false op m) =>
    match transition (r.handle m).byte op with
    | .ok c => .count c.delta
    | .error _ => .stay
  | .incident (.check false) => .settle
  | .incident .rebase => .rebase
  | _ => .stay

/-- An observation counts at most one handle, a boundary settles the counters or moves the
baseline, and nothing else adjusts them. -/
theorem adjustment_cases (r : Rig σ) (x : Occurrence) :
  (∃ d : Int, d.natAbs ≤ x.observed.toNat ∧ x.boundary = false ∧ ∀ t : Tally,
      t.apply (r.adjustment x) = t.count d)
    ∨ x.observed = false ∧ x.boundary = true
      ∧ (r.adjustment x = .settle ∨ r.adjustment x = .rebase)
  := by
  have still (t : Tally) : t.count 0 = t := by simp [Tally.count]
  cases x with
  | write m b => exact .inl ⟨0, Nat.zero_le _, rfl, fun t => (still t).symm⟩
  | incident e =>
    cases e with
    | operation busy op m =>
      left
      cases busy with
      | false =>
        cases changes : transition (r.handle m).byte op with
        | ok c =>
          use c.delta, natAbs_delta_le changes, rfl
          intro t
          rw [adjustment, changes]
          rfl
        | error v =>
          use 0, Nat.zero_le _, rfl
          intro t
          rw [adjustment, changes]
          exact (still t).symm
      | true => exact ⟨0, Nat.zero_le _, rfl, fun t => (still t).symm⟩
    | check busy =>
      cases busy with
      | false => exact .inr ⟨rfl, rfl, .inl rfl⟩
      | true => exact .inl ⟨0, Nat.zero_le _, rfl, fun t => (still t).symm⟩
    | rebase => exact .inr ⟨rfl, rfl, .inr rfl⟩

/-- After the given occurrences neither counter exceeds the number of observations, and the
surplus does not exceed the number of those since the last boundary. -/
structure Ranges (xs : List Occurrence) (t : Tally) : Prop where
  live : t.live.natAbs ≤ observations xs
  baseline : t.baseline.natAbs ≤ observations xs
  leaked : t.leaked.natAbs ≤ recent xs

/-- An occurrence keeps the bounds. -/
theorem ranges_occur {xs : List Occurrence} {t : Tally} (h : Ranges xs t) (r : Rig σ)
    (x : Occurrence) :
  Ranges (xs ++ [x]) (t.apply (r.adjustment x))
  := by
  obtain ⟨live, baseline, leaked⟩ := h
  have grows : observations xs ≤ observations (xs ++ [x]) := by
    rw [Occurrence.observations_concat]
    exact Nat.le_add_right _ _
  obtain ⟨d, little, within, counts⟩ | ⟨unobserved, ends, settles | rebases⟩ :=
    r.adjustment_cases x
  · rw [counts]
    refine ⟨?_, baseline.trans grows, ?_⟩
    · rw [Occurrence.observations_concat]
      simp only [Tally.count]
      omega
    · rw [Occurrence.recent_concat, within, Tally.leaked_count]
      simp only [Bool.false_eq_true, ↓reduceIte]
      omega
  · rw [settles]
    refine ⟨baseline.trans grows, baseline.trans grows, ?_⟩
    rw [Tally.apply, Tally.leaked_settle]
    exact Nat.zero_le _
  · rw [rebases]
    refine ⟨live.trans grows, live.trans grows, ?_⟩
    rw [Tally.apply, Tally.leaked_rebase]
    exact Nat.zero_le _

variable [Sink σ]

/-- What happens in an occurrence of monitor `i`. -/
def occur (i : Nat) (r : Rig σ) : Occurrence → Rig σ
  | .incident e => r.undergo i e
  | .write m b => r.setHandle m { r.handle m with byte := b }

/-- What happens in occurrences of monitor `i`, one after another. -/
def occurAll (i : Nat) (r : Rig σ) (xs : List Occurrence) : Rig σ := xs.foldl (occur i) r

/-- The register after the occurrences of monitor `i`. -/
def registerAll (i : Nat) (r : Rig σ) (w : Register) : List Occurrence → Register
  | [] => w
  | x :: xs => (r.occur i x).registerAll i (w.apply (r.adjustment x)) xs

theorem occurAll_concat (i : Nat) (r : Rig σ) (xs : List Occurrence) (x : Occurrence) :
  r.occurAll i (xs ++ [x]) = (r.occurAll i xs).occur i x
  := by simp [occurAll]

theorem registerAll_concat (i : Nat) (r : Rig σ) (w : Register) (xs : List Occurrence)
    (x : Occurrence) :
  r.registerAll i w (xs ++ [x]) = (r.registerAll i w xs).apply ((r.occurAll i xs).adjustment x)
  := by
  induction xs generalizing r w with
  | nil => rfl
  | cons y ys ih => exact ih _ _

/-- An occurrence adjusts the counters, and leaves the guard free. -/
theorem monitor_occur (free : (r.monitor i).tally.held = false) (x : Occurrence) :
  (r.occur i x).monitor i = (r.monitor i).adjust (·.apply (r.adjustment x))
  := by
  cases x with
  | write m b => rfl
  | incident e =>
    cases e with
    | operation busy op m =>
      cases busy with
      | false =>
        rw [occur, undergo]
        cases changes : transition (r.handle m).byte op with
        | ok c =>
          simp [observe_of_ok free changes, adjustment, changes, adjust, setMonitor, setHandle,
            Tally.apply]
        | error v =>
          simp [observe_of_error free changes, report_eq, adjustment, changes, Tally.apply,
            Monitor.adjust, Guard.put]
      | true => rw [occur, undergo, (tells_observe_of_busy free 0 op m).monitor]; rfl
    | check busy =>
      cases busy with
      | false => rw [occur, undergo, (tells_check free).monitor]; exact Family.set_self _ _ _
      | true => rw [occur, undergo, (tells_check_of_busy free 0).monitor]; rfl
    | rebase => exact Family.set_self _ _ _

/-- After any occurrences the counters of a new monitor are within their bounds, and the guard is
free. -/
theorem ranges_occurAll (created : (r.monitor i).tally = { value := {} }) (xs : List Occurrence) :
  ((r.occurAll i xs).monitor i).tally.held = false
    ∧ ((r.occurAll i xs).monitor i).sink = (r.monitor i).sink
    ∧ Ranges xs ((r.occurAll i xs).monitor i).tally.value
  := by
  induction xs using List.reverseRecOn with
  | nil =>
    rw [occurAll, List.foldl_nil, created]
    exact ⟨rfl, rfl, Nat.le_refl _, Nat.le_refl _, Nat.le_refl _⟩
  | append_singleton xs x ih =>
    obtain ⟨free, sink, ranges⟩ := ih
    rw [occurAll_concat, monitor_occur free]
    exact ⟨free, sink, ranges_occur ranges _ x⟩

/-- As long as the observations are fewer than `2 ^ 63`, the register shows the counters. -/
theorem shows_registerAll (created : (r.monitor i).tally = { value := {} }) {xs : List Occurrence}
    (few : observations xs < 2 ^ 63) :
  (r.registerAll i {} xs).Shows ((r.occurAll i xs).monitor i).tally.value
  := by
  induction xs using List.reverseRecOn with
  | nil =>
    rw [occurAll, List.foldl_nil, created]
    exact ⟨rfl, rfl⟩
  | append_singleton xs x ih =>
    have fewer : observations xs < 2 ^ 63 := by
      rw [Occurrence.observations_concat] at few
      omega
    obtain ⟨free, -, -⟩ := ranges_occurAll created xs
    obtain ⟨-, -, ranges⟩ := ranges_occurAll created (xs ++ [x])
    have fits := fits_of_natAbs_lt (ranges.live.trans_lt few)
    rw [occurAll_concat, monitor_occur free] at fits ⊢
    rw [registerAll_concat]
    exact (ih fewer).apply _ fits

/-- The counters of a monitor stay in the range of words, and so does everything that is
computed from them.  In a run with fewer than `2 ^ 63` observations, and any number of checks
and baselines, neither counter ever exceeds the number of observations, the surplus does not
exceed the number of those since the last boundary, the sum that the next observation forms
is in range, and the words are equal to the counters.  A check reports the difference of the
words, and this is the exact difference of the counters. -/
theorem counters_in_range (created : (r.monitor i).tally = { value := {} }) (xs : List Occurrence)
    (few : observations xs < 2 ^ 63) (before after : List Occurrence)
    (split : xs = before ++ after) :
  let now := r.occurAll i before
  let t := (now.monitor i).tally.value
  let w := r.registerAll i {} before
  (t.live.natAbs ≤ observations before ∧ t.baseline.natAbs ≤ observations before
      ∧ t.leaked.natAbs ≤ recent before)
    ∧ (∀ op m c, after.head? = some (.incident (.operation false op m)) →
      transition (now.handle m).byte op = .ok c → Fits (t.live + c.delta))
    ∧ Fits t.leaked
    ∧ (w.live.toInt = t.live ∧ w.baseline.toInt = t.baseline ∧ w.leaked.toInt = t.leaked)
    ∧ ∃ effects, (now.check silent i).2.transcript = now.transcript ++ effects
      ∧ reported (r.monitor i).sink effects
        = if w.leaked = 0 then [] else [.missingFree w.leaked.toInt]
  := by
  intro now t w
  obtain ⟨free, sink, ranges⟩ := ranges_occurAll created before
  have within : observations before < 2 ^ 63 := by
    rw [split, Occurrence.observations_append] at few
    omega
  have fits : Fits t.leaked := by
    apply fits_of_natAbs_lt
    exact (ranges.leaked.trans (Occurrence.recent_le _)).trans_lt within
  have shows := shows_registerAll created within
  have difference : w.leaked.toInt = t.leaked := shows.leaked fits
  refine ⟨⟨ranges.live, ranges.baseline, ranges.leaked⟩, ?_, fits,
    ⟨shows.live, shows.baseline, difference⟩, ?_⟩
  · intro op m c next legal
    obtain ⟨rest, rfl⟩ := List.head?_eq_some_iff.mp next
    have one := natAbs_delta_le legal
    have live : t.live.natAbs ≤ observations before := ranges.live
    have more : observations xs = observations before + (observations rest + 1) := by
      rw [split, Occurrence.observations_append]
      exact congrArg _ (List.countP_cons_of_pos rfl)
    apply fits_of_natAbs_lt
    omega
  · obtain ⟨_, effects, told, found⟩ := tells_check free
    use effects
    constructor
    · rw [told]
      rfl
    · have balanced : t.leaked = 0 ↔ w.leaked = 0 := by
        rw [← difference, ← Int64.toInt_inj, Int64.toInt_zero]
      rw [← sink, found, Tally.violations, difference]
      exact if_congr balanced rfl rfl

/-- A handle that was never initialised is freed, a new baseline is taken below zero, one handle
is initialised, written to and initialised again, and an observation is skipped before the
check. -/
def slump : List Occurrence :=
  [.incident (.operation false .free 1), .incident .rebase, .incident (.operation false .init 0),
    .write 0 7, .incident (.operation true .unlock 2), .incident (.operation false .init 0),
    .incident (.check false)]

/-- The check finds a surplus of two, which is more than either counter. -/
theorem counters_in_range_slump :
  let now := scrap.occurAll 0 (slump.take 6)
  let w := scrap.registerAll 0 {} (slump.take 6)
  observations slump < 2 ^ 63
    ∧ (now.monitor 0).tally.value = ⟨1, -1⟩
    ∧ w = ⟨1, -1⟩
    ∧ w.leaked.toInt = 2
    ∧ Fits 2
    ∧ ∃ effects, (now.check silent 0).2.transcript = now.transcript ++ effects
      ∧ reported 0 effects = [.missingFree 2]
  := by
  intro now w
  have tally : (now.monitor 0).tally.value = ⟨1, -1⟩ := by decide +kernel
  have words : w = ⟨1, -1⟩ := by decide +kernel
  obtain ⟨-, -, fits, -, effects, told, found⟩ :=
    counters_in_range (r := scrap) (i := 0) rfl slump (by decide) (slump.take 6) (slump.drop 6) rfl
  have two : w.leaked.toInt = 2 := by rw [words]; rfl
  refine ⟨by decide, tally, words, two, ?_, effects, told, ?_⟩
  · have leaked : (now.monitor 0).tally.value.leaked = 2 := by rw [tally]; rfl
    exact leaked ▸ fits
  · have surplus : w.leaked ≠ 0 := by rw [words]; decide
    apply Eq.trans found
    rw [if_neg surplus, two]

end Rig

end LockDiscipline
