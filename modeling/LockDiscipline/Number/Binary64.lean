-- Numbers with 53 binary digits and a bounded exponent, in exact arithmetic on natural numbers.

namespace LockDiscipline

/-! ## Binary numbers -/

/-- A finite number that is not negative: the significand, below `2 ^ 53`, times two to the
exponent. -/
structure Binary64 where
  significand : Nat
  exponent : Int
  deriving DecidableEq, Repr, Inhabited

namespace Binary64

/-- The least exponent that a number may have. -/
def leastExponent : Int := -1074

/-- The greatest exponent that a number may have. -/
def greatestExponent : Int := 971

/-- A quotient rounded to the nearer integer, and to the even one from the middle. -/
def roundedQuotient (num den : Nat) : Nat :=
  let whole := num / den
  let twice := 2 * (num % den)
  if twice < den || (twice == den && whole % 2 == 0) then whole else whole + 1

/-- A fraction divided by two to the exponent, again as a fraction. -/
def scaled (num den : Nat) (exponent : Int) : Nat × Nat :=
  if exponent < 0 then (num * Nat.pow 2 exponent.natAbs, den)
  else (num, den * Nat.pow 2 exponent.natAbs)

/-- The exponent at which a positive fraction has a significand of 53 binary digits, or the least
exponent if that is greater. -/
def exponentOf (num den : Nat) : Int :=
  let guess : Int := Nat.log2 num - Nat.log2 den - 53
  let (n, d) := scaled num den guess
  max leastExponent (if n / d < Nat.pow 2 53 then guess else guess + 1)

/-- The number nearest to a fraction; from the middle of two, the one with the even significand.
There is none for a fraction beyond the greatest number. -/
def nearest (num den : Nat) : Option Binary64 :=
  if num = 0 then some ⟨0, leastExponent⟩
  else
    let exponent := exponentOf num den
    let (n, d) := scaled num den exponent
    let significand := roundedQuotient n d
    let result : Binary64 :=
      if significand < Nat.pow 2 53 then ⟨significand, exponent⟩ else ⟨Nat.pow 2 52, exponent + 1⟩
    if result.exponent ≤ greatestExponent then some result else none

/-- The exact value as a fraction. -/
def fraction (x : Binary64) : Nat × Nat :=
  if x.exponent < 0 then (x.significand, Nat.pow 2 x.exponent.natAbs)
  else (x.significand * Nat.pow 2 x.exponent.natAbs, 1)

/-- The nearest number to the product of two. -/
def mul (x y : Binary64) : Option Binary64 :=
  let (a, b) := x.fraction
  let (c, d) := y.fraction
  nearest (a * c) (b * d)

/-- The nearest number to the quotient of two, the second of which is not zero. -/
def div (x y : Binary64) : Option Binary64 :=
  let (a, b) := x.fraction
  let (c, d) := y.fraction
  nearest (a * d) (b * c)

end Binary64

end LockDiscipline
