/-!
# Decimals

A `Decimal` is a sign, a natural number of digits and a power of ten.  `Decimal.shortest`
is, of the decimals that are closest to a given binary floating-point number among all such
numbers, the one with the fewest digits, and of those the nearest.  `Decimal.text` writes a
decimal always with a fraction or an exponent.
-/

namespace LockDiscipline

/-- The number `digits * 10 ^ exponent`, with a sign. -/
structure Decimal where
  negative : Bool
  digits : Nat
  exponent : Int
  deriving DecidableEq, Repr

namespace Decimal

/-! ### Fewest digits -/

/-- A positive number `mantissa * 2 ^ exponent`, and whether the next smaller number of its
format is half as far away as the next larger one. -/
structure Binary where
  mantissa : Nat
  exponent : Int
  narrowBelow : Bool

/-- The mantissa of a power of two. -/
def leastMantissa : Nat := Nat.pow 2 52

/-- The number that a pattern of 64 bits without a sign encodes. -/
def Binary.ofBits (bits : Nat) : Binary :=
  let (e, f) := (bits / leastMantissa, bits % leastMantissa)
  if e = 0 then ⟨f, -1074, false⟩
  else ⟨leastMantissa + f, Int.ofNat e - 1075, f = 0 && 1 < e⟩

/-- A fraction of natural numbers. -/
structure Ratio where
  num : Nat
  den : Nat

/-- The fraction `n * 2 ^ q`. -/
def Ratio.scaled (n : Nat) (q : Int) : Ratio :=
  if 0 ≤ q then ⟨n * Nat.pow 2 q.toNat, 1⟩ else ⟨n, Nat.pow 2 (-q).toNat⟩

/-- Whether `d * 10 ^ k` is less than a fraction. -/
def Ratio.above (x : Ratio) (d : Nat) (k : Int) : Bool :=
  if 0 ≤ k then d * Nat.pow 10 k.toNat * x.den < x.num
  else d * x.den < x.num * Nat.pow 10 (-k).toNat

/-- Whether `d * 10 ^ k` equals a fraction. -/
def Ratio.isAt (x : Ratio) (d : Nat) (k : Int) : Bool :=
  if 0 ≤ k then d * Nat.pow 10 k.toNat * x.den = x.num
  else d * x.den = x.num * Nat.pow 10 (-k).toNat

/-- The largest `d` with `d * 10 ^ k` at most a fraction. -/
def Ratio.floorAt (x : Ratio) (k : Int) : Nat :=
  if 0 ≤ k then x.num / (x.den * Nat.pow 10 k.toNat)
  else x.num * Nat.pow 10 (-k).toNat / x.den

/-- The least `p` such that a fraction is less than `10 ^ p`, for fractions of at least
`10 ^ -330`. -/
def Ratio.magnitude (x : Ratio) : Int :=
  ((Nat.toDigits 10 (x.floorAt (-330))).length : Int) - 330

/-- A value, the ends of the interval of numbers to which it is the closest of its format,
and whether these ends belong to the interval. -/
structure Interval where
  value : Ratio
  lower : Ratio
  upper : Ratio
  closed : Bool

/-- The interval of a number of the format. -/
def Binary.interval (b : Binary) : Interval where
  value := .scaled (4 * b.mantissa) (b.exponent - 2)
  lower := .scaled (4 * b.mantissa - (if b.narrowBelow then 1 else 2)) (b.exponent - 2)
  upper := .scaled (4 * b.mantissa + 2) (b.exponent - 2)
  closed := b.mantissa % 2 = 0

/-- Whether `d * 10 ^ k` lies in an interval. -/
def Interval.contains (i : Interval) (d : Nat) (k : Int) : Bool :=
  let atEnd := i.lower.isAt d k || i.upper.isAt d k
  !i.lower.above d k && (if atEnd then i.closed else i.upper.above d k)

/-- The point of the grid `10 ^ k` that represents an interval: of the two neighbours of the
value those inside, and of two the nearer; a tie goes to the even one. -/
def Interval.onGrid? (i : Interval) (k : Int) : Option Nat :=
  let d := i.value.floorAt k
  match i.contains d k, i.contains (d + 1) k with
  | false, false => none
  | true, false => some d
  | false, true => some (d + 1)
  | true, true =>
    let twice : Ratio := ⟨2 * i.value.num, i.value.den⟩
    if twice.above (2 * d + 1) k then some (d + 1)
    else if twice.isAt (2 * d + 1) k then some (if d % 2 = 0 then d else d + 1)
    else some d

/-- The first of the grids `10 ^ k`, `10 ^ (k - 1)`, … with a point in an interval, and that
point; `n` grids are tried. -/
def Interval.search (i : Interval) (k : Int) : Nat → Nat × Int
  | 0 => (i.value.floorAt k, k)
  | n + 1 =>
    match i.onGrid? k with
    | some d => (d, k)
    | none => i.search (k - 1) n

/-- The digits without zeros at the end, and the power of ten increased by their number. -/
def stripped : Nat → Nat → Int → Nat × Int
  | 0, d, k => (d, k)
  | fuel + 1, d, k => if d ≠ 0 ∧ d % 10 = 0 then stripped fuel (d / 10) (k + 1) else (d, k)

/-- The shortest decimal that is closest to the magnitude of `x` among the numbers of its
format.  No more than seventeen digits are ever needed. -/
def shortest (negative : Bool) (x : Float) : Decimal :=
  let b := Binary.ofBits x.abs.toBits.toNat
  if b.mantissa = 0 then ⟨negative, 0, 0⟩
  else
    let i := b.interval
    let (d, k) := i.search (i.value.magnitude - 1) 17
    let (digits, exponent) := stripped 18 d k
    ⟨negative, digits, exponent⟩

/-! ### Text -/

/-- Numbers below `10 ^ 16` are written without an exponent. -/
def positionalLimit : Int := 16

/-- Numbers of at least `10 ^ -5` are written without an exponent. -/
def leastPositional : Int := -5

/-- A row of zeros. -/
def zeros (n : Int) : String := String.ofList (List.replicate n.toNat '0')

/-- A power of ten as it is written after a decimal, always with a sign. -/
def exponentText (n : Int) : String := (if 0 ≤ n then "e+" else "e") ++ toString n

/-- The text of the magnitude of a decimal. -/
def magnitudeText (d : Decimal) : String :=
  let ds := Nat.toDigits 10 d.digits
  let n : Int := ds.length
  let point := n + d.exponent
  let all := String.ofList ds
  if d.digits = 0 then "0.0"
  else if 0 ≤ d.exponent ∧ point ≤ positionalLimit then all ++ zeros d.exponent ++ ".0"
  else if 0 < point ∧ point ≤ positionalLimit then
    String.ofList (ds.take point.toNat) ++ "." ++ String.ofList (ds.drop point.toNat)
  else if leastPositional < point ∧ point ≤ 0 then "0." ++ zeros (-point) ++ all
  else if n = 1 then all ++ exponentText (point - 1)
  else String.ofList (ds.take 1) ++ "." ++ String.ofList (ds.drop 1) ++ exponentText (point - 1)

/-- The text of a decimal. -/
def text (d : Decimal) : String := (if d.negative then "-" else "") ++ d.magnitudeText

end Decimal

end LockDiscipline
