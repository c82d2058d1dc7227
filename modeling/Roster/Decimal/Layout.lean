import Roster.Decimal.Shortest

/-!
How a decimal is written: with a point alone, or with an exponent.

A `Layout` says how far the point may be from the first digit before an exponent is
written. A decimal without exponent always has digits on both sides of its point.
-/

namespace Roster.Decimal

open Roster.Text

/-- Which decimals are written without an exponent. -/
structure Layout where
  /-- At most so many digits stand before the point. -/
  mostWhole : Int
  /-- At most so many zeros stand between the point and the first digit. -/
  mostZeros : Int

/-- The text of a whole number that may be negative. -/
def signed (i : Int) : List Char :=
  if i < 0 then '-' :: digits i.natAbs else digits i.natAbs

/-- So many zeros. -/
def zeros (n : Int) : List Char :=
  List.replicate n.toNat '0'

/-- The text of a decimal. -/
def Layout.text (l : Layout) (d : Scaled) : List Char :=
  let ds := digits d.digits
  let point := ds.length + d.exponent
  if 0 < point ∧ point ≤ l.mostWhole then
    if 0 ≤ d.exponent then ds ++ zeros d.exponent ++ ['.', '0']
    else ds.take point.toNat ++ '.' :: ds.drop point.toNat
  else if point ≤ 0 ∧ -point ≤ l.mostZeros then
    '0' :: '.' :: zeros (-point) ++ ds
  else
    match ds with
    | [d] => d :: 'e' :: signed (point - 1)
    | d :: more => d :: '.' :: more ++ 'e' :: signed (point - 1)
    | [] => []

end Roster.Decimal
