import Roster.Decimal.Double
import Roster.Text.Numeral

/-!
The shortest decimal that reads back as a double.

A decimal reads back as a double when it lies in the double's interval: no further
from it than half the gap to its neighbours, the ends included where the significand
is even. `shortest` tries the grids of one digit, two digits and so on; the first
grid with a point in the interval wins, and of two points the nearer.
-/

namespace Roster.Decimal

/-- A decimal `digits * 10 ^ exponent`. -/
structure Scaled where
  digits : Nat
  exponent : Int
  deriving DecidableEq, Repr

/-- The interval of a double as whole numbers over the common denominator `den`. -/
structure Interval where
  low : Nat
  middle : Nat
  high : Nat
  den : Nat
  closed : Bool

/-- The interval of `m * 2 ^ q`. -/
def interval (m : Nat) (q : Int) : Interval :=
  let (unit, den) := scale 2 1 4 (-q)
  let below := if 2 * m = significandLimit ∧ q > leastExponent then 1 else 2
  { low := (4 * m - below) * unit
    middle := 4 * m * unit
    high := (4 * m + 2) * unit
    den := den
    closed := m % 2 == 0 }

/-- `d * 10 ^ k` lies in the interval. -/
def Interval.has (i : Interval) (d : Nat) (k : Int) : Bool :=
  let (num, den) := scale 10 d 1 (-k)
  let v := num * i.den
  if i.closed then i.low * den ≤ v && v ≤ i.high * den else i.low * den < v && v < i.high * den

/-- The nearer to the middle of the interval of `d` and `d + 1`, times `10 ^ k`. -/
def Interval.nearer (i : Interval) (d : Nat) (k : Int) : Nat :=
  let (num, den) := scale 10 (2 * d + 1) 1 (-k)
  let half := num * i.den
  let middle := 2 * i.middle * den
  if middle < half || (middle == half && d % 2 == 0) then d else d + 1

/-- The best point of the grid `10 ^ k` in the interval. -/
def Interval.point? (i : Interval) (k : Int) : Option Nat :=
  let (num, den) := scale 10 i.middle i.den k
  let d := num / den
  match i.has d k, i.has (d + 1) k with
  | true, true => some (i.nearer d k)
  | true, false => some d
  | false, true => some (d + 1)
  | false, false => none

/-- The greatest `k` with `10 ^ k` no greater than `num / den`, from a bound on it. -/
def magnitude (num den : Nat) : Nat → Int → Int
  | 0, k => k
  | fuel + 1, k =>
    let (n, d) := scale 10 num den k
    if d ≤ n then k else magnitude num den fuel (k - 1)

/-- The shortest decimal in the interval with at least `17 - fuel` digits. -/
def shortestFrom (i : Interval) (top : Int) : Nat → Scaled
  | 0 => ⟨0, 0⟩
  | fuel + 1 =>
    let k := top - (17 - fuel) + 1
    match i.point? k with
    | some d => ⟨d, k⟩
    | none => shortestFrom i top fuel

/-- The decimal without zeros at its end. -/
def trimZeros : Nat → Scaled → Scaled
  | 0, d => d
  | fuel + 1, d =>
    if d.digits % 10 == 0 && d.digits != 0 then trimZeros fuel ⟨d.digits / 10, d.exponent + 1⟩
    else d

/-- The shortest decimal that reads back as `m * 2 ^ q`, for a positive `m`. -/
def shortest (m : Nat) (q : Int) : Scaled :=
  let i := interval m q
  let top := magnitude i.middle i.den 700 309
  trimZeros 20 (shortestFrom i top 17)

end Roster.Decimal
