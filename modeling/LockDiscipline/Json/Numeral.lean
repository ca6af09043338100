import LockDiscipline.Decimal
import LockDiscipline.Json.Text

/-!
# Numbers in JSON

A `Numeral` is a JSON number as it is written, and `Numeral.number?` what it denotes: an
integer if it is written as one and fits 64 bits, and otherwise the decimal of a binary
floating-point number, unless that is out of range.

The floating-point number is found by rounding the digits and then scaling by a power of
ten, so it need not be the one closest to what is written.
-/

namespace LockDiscipline.Json

/-- A number as it is written: its sign, the digits before and after the point, and the
exponent with its sign. -/
structure Numeral where
  negative : Bool
  whole : List Char
  fraction : List Char
  exponent : Option (Bool × List Char)
  deriving DecidableEq, Repr

/-! ### Reading -/

/-- Reads a row of digits that is not empty. -/
def readDigits : List Char → Except Lapse (List Char × List Char)
  | [] => .error .ended
  | c :: rest =>
    if c.isDigit then .ok (c :: rest.takeWhile Char.isDigit, rest.dropWhile Char.isDigit)
    else .error .malformed

/-- Reads the digits before the point.  A zero stands alone. -/
def readWhole : List Char → Except Lapse (List Char × List Char)
  | [] => .error .ended
  | c :: rest =>
    if c = '0' then
      if (rest.head?.map Char.isDigit).getD false then .error .malformed else .ok ([c], rest)
    else readDigits (c :: rest)

/-- Reads a point and the digits after it, if there is a point. -/
def readFraction : List Char → Except Lapse (List Char × List Char)
  | [] => .ok ([], [])
  | c :: rest => if c = '.' then readDigits rest else .ok ([], c :: rest)

/-- The sign at the head of a text, whether it is a minus, and the rest. -/
def takeSign : List Char → Bool × List Char
  | [] => (false, [])
  | c :: rest =>
    if c = '-' then (true, rest) else if c = '+' then (false, rest) else (false, c :: rest)

/-- Reads an exponent, if there is one. -/
def readExponent : List Char → Except Lapse (Option (Bool × List Char) × List Char)
  | [] => .ok (none, [])
  | c :: rest =>
    if c = 'e' ∨ c = 'E' then
      match readDigits (takeSign rest).2 with
      | .error l => .error l
      | .ok (ds, rest') => .ok (some ((takeSign rest).1, ds), rest')
    else .ok (none, c :: rest)

/-- Reads a number without its sign. -/
def readMagnitude (negative : Bool) (cs : List Char) : Except Lapse (Numeral × List Char) :=
  match readWhole cs with
  | .error l => .error l
  | .ok (whole, cs) =>
    match readFraction cs with
    | .error l => .error l
    | .ok (fraction, cs) =>
      match readExponent cs with
      | .error l => .error l
      | .ok (exponent, cs) => .ok (⟨negative, whole, fraction, exponent⟩, cs)

/-- Reads a number. -/
def readNumeral : List Char → Except Lapse (Numeral × List Char)
  | [] => .error .ended
  | c :: rest => if c = '-' then readMagnitude true rest else readMagnitude false (c :: rest)

/-! ### Lengths -/

theorem length_lt_of_readDigits {cs ds rest : List Char}
    (h : readDigits cs = .ok (ds, rest)) :
  rest.length < cs.length
  := by
  unfold readDigits at h
  split at h
  · cases h
  · next c tail =>
    split at h
    · simp only [Except.ok.injEq, Prod.mk.injEq] at h
      have := (List.dropWhile_suffix Char.isDigit (l := tail)).length_le
      simp only [List.length_cons, ← h.2]
      omega
    · cases h

theorem length_lt_of_readWhole {cs ds rest : List Char}
    (h : readWhole cs = .ok (ds, rest)) :
  rest.length < cs.length
  := by
  unfold readWhole at h
  split at h
  · cases h
  · split at h
    · split at h
      · cases h
      · cases h
        simp
    · exact length_lt_of_readDigits h

theorem length_le_of_readFraction {cs ds rest : List Char}
    (h : readFraction cs = .ok (ds, rest)) :
  rest.length ≤ cs.length
  := by
  unfold readFraction at h
  split at h
  · cases h
    simp
  · split at h
    · have := length_lt_of_readDigits h
      simp only [List.length_cons]
      omega
    · cases h
      simp

theorem length_takeSign_le (cs : List Char) :
  (takeSign cs).2.length ≤ cs.length
  := by
  unfold takeSign
  split
  · simp
  · split
    · simp
    · split <;> simp

theorem length_le_of_readExponent {cs rest : List Char} {e : Option (Bool × List Char)}
    (h : readExponent cs = .ok (e, rest)) :
  rest.length ≤ cs.length
  := by
  unfold readExponent at h
  split at h
  · cases h
    simp
  · next c tail =>
    split at h
    · split at h
      · cases h
      · next hread =>
        have := length_lt_of_readDigits hread
        have := length_takeSign_le tail
        simp only [Except.ok.injEq, Prod.mk.injEq] at h
        simp only [List.length_cons, ← h.2]
        omega
    · cases h
      simp

theorem length_lt_of_readMagnitude {negative : Bool} {cs rest : List Char} {n : Numeral}
    (h : readMagnitude negative cs = .ok (n, rest)) :
  rest.length < cs.length
  := by
  rw [readMagnitude] at h
  split at h
  · cases h
  · next hwhole =>
    split at h
    · cases h
    · next hfraction =>
      split at h
      · cases h
      · next hexponent =>
        have := length_lt_of_readWhole hwhole
        have := length_le_of_readFraction hfraction
        have := length_le_of_readExponent hexponent
        cases h
        omega

theorem length_lt_of_readNumeral {cs rest : List Char} {n : Numeral}
    (h : readNumeral cs = .ok (n, rest)) :
  rest.length < cs.length
  := by
  unfold readNumeral at h
  split at h
  · cases h
  · split at h
    · have := length_lt_of_readMagnitude h
      simp only [List.length_cons]
      omega
    · exact length_lt_of_readMagnitude h

/-! ### Denotation -/

/-- What a number in JSON denotes. -/
inductive Number where
  | integer (n : Int)
  | decimal (d : Decimal)
  deriving DecidableEq, Repr

/-- The largest number that the digits of a number are gathered into. -/
def maxSignificand : Nat := 18446744073709551615

/-- The largest exponent that is told from a larger one. -/
def maxExponent : Nat := 2147483647

/-- The magnitude of the least negative integer. -/
def maxNegative : Nat := 9223372036854775808

/-- The value of a digit. -/
def digitValue (c : Char) : Nat := c.toNat - '0'.toNat

/-- The number that a row of digits denotes. -/
def digitsValue (ds : List Char) : Nat := ds.foldl (fun n c => n * 10 + digitValue c) 0

/-- Gathers digits after those that make up `n`, as long as they fit; the rest is left. -/
def gather (n : Nat) : List Char → Nat × List Char
  | [] => (n, [])
  | c :: rest =>
    if n * 10 + digitValue c ≤ maxSignificand then gather (n * 10 + digitValue c) rest
    else (n, c :: rest)

/-- The number `x * 10 ^ e`, by one multiplication or by divisions by powers of ten that
are themselves in range; absent if it is too large. -/
def scale (x : Float) (e : Int) : Option Float :=
  if -308 ≤ e then
    if e < 0 then some (x / Float.ofScientific 1 false (-e).toNat)
    else if e ≤ 308 then
      let y := x * Float.ofScientific 1 false e.toNat
      if y.isInf then none else some y
    else if x == 0.0 then some x
    else none
  else if x == 0.0 then some x
  else scale (x / Float.ofScientific 1 false 308) (e + 308)
termination_by (-e).toNat

namespace Numeral

/-- The decimal that a number denotes when its digits are gathered into `n` and the power
of ten that belongs to them is `e`; absent if it is out of range. -/
def decimal? (m : Numeral) (n : Nat) (e : Int) : Option Number :=
  let x := (UInt64.ofNat n).toFloat
  let scaled :=
    match m.exponent with
    | none => scale x e
    | some (negative, ds) =>
      let k := digitsValue ds
      if k ≤ maxExponent then scale x (if negative then e - k else e + k)
      else if n ≠ 0 ∧ !negative then none
      else some 0.0
  scaled.map fun y => .decimal (.shortest m.negative y)

/-- The integer with the magnitude `n`.  A negative one that does not fit, and a negative
zero, are decimals. -/
def integer (m : Numeral) (n : Nat) : Option Number :=
  if !m.negative then some (.integer n)
  else if n = 0 ∨ maxNegative < n then m.decimal? n 0
  else some (.integer (-n))

/-- What a number denotes; absent if it is out of range. -/
def number? (m : Numeral) : Option Number :=
  let (n, excess) := gather 0 m.whole
  if excess = [] ∧ m.fraction = [] ∧ m.exponent = none then m.integer n
  else
    let (n, unread) := gather n m.fraction
    m.decimal? n ((excess.length : Int) - (m.fraction.length - unread.length : Nat))

end Numeral

end LockDiscipline.Json
