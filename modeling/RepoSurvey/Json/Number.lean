import RepoSurvey.Json.Double

/-!
# Numbers in documents

Integers are kept exactly as long as they fit into 64 bits; other numbers are floating point.
-/

namespace RepoSurvey.Json

inductive Number
  /-- An integer from `-2 ^ 63` to `2 ^ 64 - 1`. -/
  | integer (value : Int)
  | double (value : Double)
  deriving BEq, DecidableEq, Inhabited, Repr

/-- The largest integer that is kept exactly. -/
def largestInteger : Nat := Nat.pow 2 64 - 1

namespace Double

/-- Zeros and digits of a decimal with a point. -/
def plain (digits : String) (power : Int) : String :=
  let length : Int := digits.length
  let point := length + power
  if 0 ≤ power then digits ++ "".pushn '0' power.toNat ++ ".0"
  else if 0 < point then
    String.ofList (digits.toList.take point.toNat) ++ "." ++
      String.ofList (digits.toList.drop point.toNat)
  else "0." ++ "".pushn '0' (-point).toNat ++ digits

/-- Digits and an exponent of ten after the first digit. -/
def scientific (digits : String) (power : Int) : String :=
  let exponent := digits.length + power - 1
  let sign := if exponent < 0 then "-" else "+"
  let mantissa := match digits.toList with
    | [] => "0"
    | [only] => only.toString
    | first :: rest => first.toString ++ "." ++ String.ofList rest
  mantissa ++ "e" ++ sign ++ toString exponent.natAbs

/-- A number as it stands in documents: with an exponent when it is very large or small. -/
def text (number : Double) : String :=
  let sign := if number.isNegative then "-" else ""
  if number.isZero then sign ++ "0.0"
  else
    let decimal := number.shortest
    let digits := toString decimal.digits
    let point := digits.length + decimal.power
    if -5 < point && point ≤ 16 then sign ++ plain digits decimal.power
    else sign ++ scientific digits decimal.power

/-- A number without an exponent, and without a point if it is whole. -/
def plainText (number : Double) : String :=
  let sign := if number.isNegative then "-" else ""
  if number.isZero then sign ++ "0"
  else
    let decimal := number.shortest
    let digits := toString decimal.digits
    if 0 ≤ decimal.power then sign ++ digits ++ "".pushn '0' decimal.power.toNat
    else sign ++ plain digits decimal.power

end Double

namespace Number

def text : Number → String
  | integer value => toString value
  | double value => value.text

/-- The value of a number that is a natural number written as an integer. -/
def natural? : Number → Option Nat
  | integer value => if 0 ≤ value then some value.toNat else none
  | double _ => none

end Number

/-- `significand * 10 ^ exponent`, computed by one multiplication or division, or several if the
exponent is very small; `none` if the result is too large. The roundings may add up to an error in
the last place. -/
def scaleByTen (isNegative : Bool) (significand : Nat) (exponent : Int) : Option Double :=
  let start := (Double.ofRatio isNegative significand 1).getD (.zero isNegative)
  if start.isZero then some start
  else if 308 < exponent then none
  else if 0 ≤ exponent then start.times (.powerOfTen exponent.toNat)
  else shrink exponent.natAbs start exponent.natAbs
where
  /-- Divides by `10 ^ power`, at most 308 places at a time. -/
  shrink : Nat → Double → Nat → Option Double
    | 0, number, _ => some number
    | fuel + 1, number, power =>
        if power ≤ 308 then number.dividedBy (.powerOfTen power)
        else if number.isZero then some number
        else (number.dividedBy (.powerOfTen 308)).bind fun number =>
          shrink fuel number (power - 308)

end RepoSurvey.Json
