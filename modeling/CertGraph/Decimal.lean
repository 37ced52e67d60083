import CertGraph.Text.Digits

/- Fractions in decimal: rounding, places after the point, leading digits; and the fraction of 53
binary digits nearest to another one. -/
set_option autoImplicit false
set_option relaxedAutoImplicit false

namespace CertGraph.Decimal

open CertGraph.Text (paddedDigits)

/-- A quotient rounded to the nearest whole number, a half to the even neighbour. -/
def roundDiv (num den : Nat) : Nat :=
  let whole := num / den
  let twice := 2 * (num % den)
  if twice < den ∨ (twice = den ∧ whole % 2 = 0) then whole else whole + 1

/-- A fraction that is not negative. -/
structure Fraction where
  num : Nat
  den : Nat

namespace Fraction

/-- A fraction multiplied by a power of a base. -/
def scaled (x : Fraction) (base : Nat) (power : Int) : Fraction :=
  if 0 ≤ power then ⟨x.num * Nat.pow base power.toNat, x.den⟩
  else ⟨x.num, x.den * Nat.pow base (-power).toNat⟩

/-- The nearest whole number, a half to the even neighbour. -/
def rounded (x : Fraction) : Nat :=
  roundDiv x.num x.den

/-- Whether a fraction is at least a whole number. -/
def reaches (x : Fraction) (n : Nat) : Bool :=
  n * x.den ≤ x.num

/-! ### Binary digits -/

/-- The significant binary digits of a number of double precision. -/
def precision : Nat := 53

/-- The least exponent of the last binary digit. -/
def leastExponent : Int := -1074

/-- The exponent of the last of 53 binary digits. -/
private def lastExponent (x : Fraction) : Int :=
  let guess : Int := x.num.log2 - x.den.log2 - (precision - 1)
  let exact := if (x.scaled 2 (-guess)).reaches (Nat.pow 2 (precision - 1)) then guess
    else guess - 1
  max exact leastExponent

/-- The nearest fraction of 53 binary digits, unless it reaches 2 to the 1024. -/
def nearest? (x : Fraction) : Option Fraction :=
  let exponent := lastExponent x
  let digits := (x.scaled 2 (-exponent)).rounded
  let near := Fraction.scaled ⟨digits, 1⟩ 2 exponent
  if near.reaches (Nat.pow 2 1024) then none else some near

/-! ### Decimal digits -/

/-- The digits before and after the point, with as many places after it as given. -/
def places (x : Fraction) (count : Nat) : List Char × List Char :=
  let all := paddedDigits 10 (count + 1) (x.scaled 10 count).rounded
  all.splitAt (all.length - count)

/-- The exponent of the first decimal digit; zero has exponent zero. -/
private def firstExponent (x : Fraction) : Int :=
  if x.num = 0 then 0
  else
    let guess : Int := (Nat.toDigits 10 x.num).length - (Nat.toDigits 10 x.den).length
    if (x.scaled 10 (-guess)).reaches 1 then guess else guess - 1

/-- As many leading digits as given, at least one, and the exponent of the first of them. -/
def leading (x : Fraction) (count : Nat) : List Char × Int :=
  let exponent := firstExponent x
  let digits := (x.scaled 10 (count - 1 - exponent)).rounded
  if digits < Nat.pow 10 count then (paddedDigits 10 count digits, exponent)
  else (paddedDigits 10 count (digits / 10), exponent + 1)

end Fraction

end CertGraph.Decimal
