/-!
Doubles: the finite numbers `m * 2 ^ q` of the 64-bit binary format, as exact data.

`Double.nearest` rounds a decimal to the nearest one, a tie to the even neighbour.
All arithmetic is on natural numbers, so nothing is lost on the way.
-/

namespace Roster.Decimal

/-- A double. A finite one is `significand * 2 ^ exponent`, with a significand below
`2 ^ 53` that is as large as its exponent allows. -/
inductive Double where
  | finite (negative : Bool) (significand : Nat) (exponent : Int)
  | infinite (negative : Bool)
  | nan
  deriving DecidableEq, Repr, Inhabited

/-- The exponent of the smallest doubles. -/
def leastExponent : Int := -1074

/-- The exponent of the largest doubles. -/
def greatestExponent : Int := 971

/-- Significands are below this number, which is `2 ^ 53`. -/
def significandLimit : Nat := 9007199254740992

/-- `num / den`, rounded to the nearest whole number, a tie to the even one. -/
def roundDiv (num den : Nat) : Nat :=
  let q := num / den
  let r := num % den
  if 2 * r > den || (2 * r == den && q % 2 == 1) then q + 1 else q

/-- The fraction `num / den` divided by `base ^ e`. -/
def scale (base : Nat) (num den : Nat) (e : Int) : Nat × Nat :=
  match e with
  | .ofNat k => (num, den * Nat.pow base k)
  | .negSucc k => (num * Nat.pow base (k + 1), den)

/-- The significand of `num / den` for the exponent `e`. -/
def significandAt (num den : Nat) (e : Int) : Nat :=
  let (num, den) := scale 2 num den e
  roundDiv num den

/-- The double nearest to the positive number `num / den`. -/
def nearestRatio (negative : Bool) (num den : Nat) : Double :=
  let guess : Int := (num.log2 : Int) - den.log2 - 53
  let low := max leastExponent guess
  let e := if significandAt num den low ≥ significandLimit then low + 1 else low
  let m := significandAt num den e
  let (m, e) := if m ≥ significandLimit then (significandLimit / 2, e + 1) else (m, e)
  if e > greatestExponent then .infinite negative else .finite negative m e

/-- The double nearest to `digits * 10 ^ e`, where `digits` has `length` digits.
Numbers far outside the range are not worked out. -/
def Double.nearest (negative : Bool) (digits length : Nat) (e : Int) : Double :=
  if digits = 0 then .finite negative 0 leastExponent
  else if e + length > 400 then .infinite negative
  else if e + length < -400 then .finite negative 0 leastExponent
  else
    let (num, den) := scale 10 digits 1 (-e)
    nearestRatio negative num den

namespace Double

/-- The same number; zeros are one number whatever their sign, and so are all that are
not numbers. -/
def same (a b : Double) : Bool :=
  match a, b with
  | .finite s m e, .finite t n f => (m == 0 && n == 0) || (s == t && m == n && e == f)
  | .infinite s, .infinite t => s == t
  | .nan, .nan => true
  | _, _ => false

/-- The double is a number of finite size. -/
def isFinite : Double → Bool
  | .finite .. => true
  | _ => false

end Double

end Roster.Decimal
