-- A binary number is written with the fewest decimal digits that read back as it, and with the
-- nearest ones of that length.
import LockDiscipline.Number.Binary64

namespace LockDiscipline

/-! ## The decimals that read back -/

/-- A positive number between the bounds within which every decimal reads back as it. The three are
counted in parts of one: the number is `value / parts`. -/
structure Neighbourhood where
  low : Nat
  value : Nat
  high : Nat
  parts : Nat
  /-- Whether the bounds themselves read back. -/
  closed : Bool

/-- A decimal: its digits as a number, and the exponent of ten of its last digit. -/
structure Decimal where
  digits : Nat
  exponent : Int
  deriving DecidableEq, Repr

namespace Binary64

/-- The neighbourhood of a positive number. Its bounds are halfway to its neighbours, and the
neighbour below a power of two is only half as far away as the one above. -/
def neighbourhood (x : Binary64) : Neighbourhood :=
  let (unit, parts) :=
    if x.exponent < 0 then (1, 4 * Nat.pow 2 x.exponent.natAbs)
    else (Nat.pow 2 x.exponent.natAbs, 4)
  let below := if x.significand == Nat.pow 2 52 && x.exponent != leastExponent then 1 else 2
  { low := (4 * x.significand - below) * unit
    value := 4 * x.significand * unit
    high := (4 * x.significand + 2) * unit
    parts := parts
    closed := x.significand % 2 == 0 }

end Binary64

namespace Neighbourhood

/-- The exponent of ten of the leading digit of a number below one. -/
def negativeMagnitude (value parts : Nat) : Nat → Nat → Nat
  | 0, places => places
  | fuel + 1, places =>
    if parts ≤ value * Nat.pow 10 places then places
    else negativeMagnitude value parts fuel (places + 1)

/-- The exponent of ten of the leading digit. No number has its leading digit further behind the
point than the least one, whose exponent is -324. -/
def magnitude (n : Neighbourhood) : Int :=
  if n.parts ≤ n.value then ((toString (n.value / n.parts)).length : Int) - 1
  else -(negativeMagnitude n.value n.parts 330 1 : Int)

/-- Whether a number of grid units reads back, where the unit is ten to the exponent. -/
def contains (n : Neighbourhood) (exponent : Int) (units : Nat) : Bool :=
  let (u, f) :=
    if exponent < 0 then (units * n.parts, Nat.pow 10 exponent.natAbs)
    else (units * n.parts * Nat.pow 10 exponent.natAbs, 1)
  if n.closed then n.low * f ≤ u && u ≤ n.high * f else n.low * f < u && u < n.high * f

/-- The decimal with the given exponent that reads back and is nearest, if one reads back. From
the middle of two the even one is taken. -/
def onGrid (n : Neighbourhood) (exponent : Int) : Option Decimal :=
  let (num, den) :=
    if exponent < 0 then (n.value * Nat.pow 10 exponent.natAbs, n.parts)
    else (n.value, n.parts * Nat.pow 10 exponent.natAbs)
  let below := num / den
  let nearer := Binary64.roundedQuotient num den
  let farther := if nearer == below then below + 1 else below
  if n.contains exponent nearer then some ⟨nearer, exponent⟩
  else if n.contains exponent farther then some ⟨farther, exponent⟩
  else none

/-- The shortest decimal that reads back. Seventeen digits are always enough. -/
def shortest (n : Neighbourhood) : Decimal :=
  ((List.range 17).findSome? fun (digits : Nat) => n.onGrid (n.magnitude - digits)).getD
    ⟨n.value / n.parts, 0⟩

end Neighbourhood

/-! ## Its text -/

namespace Decimal

/-- The digits without zeros at their end; the exponent grows with each zero dropped. -/
def dropZeros : List Char → Int → List Char × Int
  | '0' :: rest, exponent => dropZeros rest (exponent + 1)
  | digits, exponent => (digits.reverse, exponent)

/-- A run of zeros. -/
def zeros (n : Int) : List Char := List.replicate n.toNat '0'

/-- The exponent behind the mark, always with its sign. -/
def exponentText (exponent : Int) : List Char :=
  (if exponent < 0 then '-' else '+') :: (toString exponent.natAbs).toList

/-- The text of a decimal. From `0.00001` on and below ten to the sixteenth the point stands in its
place and a digit follows it; all else has one digit before the point and an exponent. -/
def text (decimal : Decimal) : String :=
  let (digits, last) := dropZeros (toString decimal.digits).toList.reverse decimal.exponent
  let lead := last + digits.length - 1
  String.ofList <|
    if lead < -5 || 15 < lead then
      match digits with
      | first :: second :: rest => first :: '.' :: second :: rest ++ 'e' :: exponentText lead
      | _ => digits ++ 'e' :: exponentText lead
    else if lead < 0 then '0' :: '.' :: zeros (-lead - 1) ++ digits
    else if 0 ≤ last then digits ++ zeros last ++ ['.', '0']
    else digits.take (lead.toNat + 1) ++ '.' :: digits.drop (lead.toNat + 1)

end Decimal

namespace Binary64

/-- The shortest text that reads back as the number. -/
def text (x : Binary64) : String :=
  if x.significand = 0 then "0.0" else x.neighbourhood.shortest.text

end Binary64

end LockDiscipline
