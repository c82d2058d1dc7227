/-!
Numerals: digits in a radix, and the whole numbers that fit a 64-bit word.

`natOfDigits?` reads a non-empty run of digits and nothing else. `word?` reads
what settings and command lines accept for a line, a count or a group: an
optional plus sign and ASCII digits, for a number below `wordLimit`.
-/

namespace Roster.Text

/-- The first number that does not fit a 64-bit word. -/
def wordLimit : Nat := 18446744073709551616

/-- The value of an ASCII letter or digit as a digit in `radix`. -/
def digitValue? (radix : Nat) (c : Char) : Option Nat :=
  let value :=
    if '0' ≤ c ∧ c ≤ '9' then some (c.toNat - 48)
    else if 'a' ≤ c ∧ c ≤ 'z' then some (c.toNat - 87)
    else if 'A' ≤ c ∧ c ≤ 'Z' then some (c.toNat - 55)
    else none
  value.filter (· < radix)

/-- Extends the number read so far by the digits of `cs`. -/
def extendDigits? (radix : Nat) (soFar : Nat) : List Char → Option Nat
  | [] => some soFar
  | c :: cs => do
    let d ← digitValue? radix c
    extendDigits? radix (soFar * radix + d) cs

/-- Reads a non-empty run of digits in `radix`. -/
def natOfDigits? (radix : Nat) : List Char → Option Nat
  | [] => none
  | cs => extendDigits? radix 0 cs

/-- Reads an optional plus sign and decimal digits, for a number below `wordLimit`. -/
def wordOfChars? (cs : List Char) : Option Nat :=
  (natOfDigits? 10 (match cs with | '+' :: ds => ds | ds => ds)).filter (· < wordLimit)

/-- Reads an optional plus sign and decimal digits, for a number below `wordLimit`. -/
def word? (s : String) : Option Nat :=
  wordOfChars? s.toList

/-- The ASCII digit with value `d`, for `d` below ten. -/
def digitChar (d : Nat) : Char :=
  Char.ofNat (48 + d % 10)

/-- The decimal digits of `n`, most significant first, without leading zeros. -/
def digits (n : Nat) : List Char :=
  if n < 10 then [digitChar n] else digits (n / 10) ++ [digitChar n]
termination_by n

/-- The decimal numeral of `n`. -/
def numeral (n : Nat) : String :=
  .ofList (digits n)

end Roster.Text
