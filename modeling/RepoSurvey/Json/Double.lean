/-!
# Binary floating point numbers

Finite numbers with 53 significant bits, computed with exactly: a quotient of integers is rounded to
the nearest one, halfway cases to an even significand.
-/

namespace RepoSurvey.Json

/-- The number `significand * 2 ^ exponent`, negated if `isNegative`. The significand has 53 bits
unless the exponent is the least one, -1074. -/
structure Double where
  isNegative : Bool
  significand : Nat
  exponent : Int
  deriving BEq, DecidableEq, Inhabited, Repr

namespace Double

def leastExponent : Int := -1074

def greatestExponent : Int := 971

def zero (isNegative : Bool) : Double := ⟨isNegative, 0, leastExponent⟩

def isZero (number : Double) : Bool := number.significand == 0

/-- `numerator / denominator` scaled down by a power of two, as a quotient of integers. -/
def scaled (numerator denominator : Nat) (exponent : Int) : Nat × Nat :=
  if 0 ≤ exponent then (numerator, denominator * Nat.pow 2 exponent.toNat)
  else (numerator * Nat.pow 2 (-exponent).toNat, denominator)

/-- The integer nearest to a quotient, the even one if it lies halfway. -/
def nearest (numerator denominator : Nat) : Nat :=
  let floor := numerator / denominator
  let twice := 2 * (numerator % denominator)
  if denominator < twice || (twice == denominator && floor % 2 == 1) then floor + 1 else floor

/-- The exponent for which a quotient has 53 bits before the point. -/
def exponentFor (numerator denominator : Nat) : Int :=
  let guess : Int := (Nat.log2 numerator : Int) - Nat.log2 denominator - 52
  let (top, bottom) := scaled numerator denominator guess
  max leastExponent (if top / bottom < Nat.pow 2 52 then guess - 1 else guess)

/-- The number nearest to a quotient; `none` if it is too large. -/
def ofRatio (isNegative : Bool) (numerator denominator : Nat) : Option Double :=
  if numerator == 0 || denominator == 0 then some (zero isNegative)
  else
    let exponent := exponentFor numerator denominator
    let (top, bottom) := scaled numerator denominator exponent
    let significand := nearest top bottom
    let (significand, exponent) :=
      if significand == Nat.pow 2 53 then (Nat.pow 2 52, exponent + 1) else (significand, exponent)
    if greatestExponent < exponent then none else some ⟨isNegative, significand, exponent⟩

/-- The size of a number as a quotient. -/
def ratio (number : Double) : Nat × Nat :=
  if 0 ≤ number.exponent then (number.significand * Nat.pow 2 number.exponent.toNat, 1)
  else (number.significand, Nat.pow 2 (-number.exponent).toNat)

/-- The number nearest to a power of ten. -/
def powerOfTen (power : Nat) : Double := (ofRatio false (Nat.pow 10 power) 1).getD (zero false)

def times (left right : Double) : Option Double :=
  let (leftTop, leftBottom) := left.ratio
  let (rightTop, rightBottom) := right.ratio
  ofRatio (left.isNegative != right.isNegative) (leftTop * rightTop) (leftBottom * rightBottom)

def dividedBy (left right : Double) : Option Double :=
  let (leftTop, leftBottom) := left.ratio
  let (rightTop, rightBottom) := right.ratio
  ofRatio (left.isNegative != right.isNegative) (leftTop * rightBottom) (leftBottom * rightTop)

/-! ## Decimal digits -/

/-- How many digits an integer has; none for zero. -/
def digitCount (number : Nat) : Nat := if number == 0 then 0 else (Nat.toDigits 10 number).length

/-- Digits and a power of ten: the number `digits * 10 ^ power`. -/
structure Decimal where
  digits : Nat
  power : Int
  deriving BEq, Repr

namespace Decimal

def ratio (decimal : Decimal) : Nat × Nat :=
  if 0 ≤ decimal.power then (decimal.digits * Nat.pow 10 decimal.power.toNat, 1)
  else (decimal.digits, Nat.pow 10 (-decimal.power).toNat)

/-- Whether a decimal is read back as the size of `number`. -/
def denotes (decimal : Decimal) (number : Double) : Bool :=
  let (top, bottom) := decimal.ratio
  ofRatio number.isNegative top bottom == some number

end Decimal

/-- The position of the leading digit of a quotient: the least power of ten above it. -/
def magnitude (numerator denominator : Nat) : Int :=
  let guess : Int := (digitCount numerator : Int) - digitCount denominator
  -- The quotient lies between `10 ^ (guess - 1)` and `10 ^ (guess + 1)`.
  let (top, bottom) :=
    if 0 ≤ guess then (numerator, denominator * Nat.pow 10 guess.toNat)
    else (numerator * Nat.pow 10 (-guess).toNat, denominator)
  if bottom ≤ top then guess + 1 else guess

/-- The two decimals with `count` digits on either side of a quotient, the nearer one first. -/
def neighbours (numerator denominator count : Nat) : List Decimal :=
  let power := magnitude numerator denominator - count
  let (top, bottom) :=
    if 0 ≤ power then (numerator, denominator * Nat.pow 10 power.toNat)
    else (numerator * Nat.pow 10 (-power).toNat, denominator)
  let below : Decimal := ⟨top / bottom, power⟩
  let above : Decimal := ⟨top / bottom + 1, power⟩
  if 2 * (top % bottom) ≤ bottom then [below, above] else [above, below]

/-- Drops zeros at the end of the digits. -/
def Decimal.trim : Nat → Decimal → Decimal
  | 0, decimal => decimal
  | fuel + 1, decimal =>
      if decimal.digits != 0 && decimal.digits % 10 == 0 then
        trim fuel ⟨decimal.digits / 10, decimal.power + 1⟩
      else decimal

/-- The shortest decimal that is read back as this number, the nearest among the shortest. -/
def shortest (number : Double) : Decimal :=
  let (numerator, denominator) := number.ratio
  let candidates := (List.range 17).flatMap fun count =>
    neighbours numerator denominator (count + 1)
  ((candidates.find? (·.denotes number)).getD ⟨0, 0⟩).trim 20

end Double

end RepoSurvey.Json
