import RepoSurvey.Json.Number
import RepoSurvey.Yaml.Events

/-!
# What texts stand for

A plain text stands for nothing, a truth value or a number if it is written like one, and for itself
otherwise.  A tag can ask for one of these.
-/

namespace RepoSurvey.Yaml

inductive Meaning
  | nothing
  | bool (value : Bool)
  | integer (value : Int)
  | double (value : Json.Double)
  /-- A number that is too large, infinite or no number at all, under its name. -/
  | limit (name : String)
  | text (value : String)
  deriving DecidableEq, Repr

def readNothing? (text : String) : Option Unit :=
  if ["null", "Null", "NULL", "~"].contains text then some () else none

def readBool? (text : String) : Option Bool :=
  if ["true", "True", "TRUE"].contains text then some true
  else if ["false", "False", "FALSE"].contains text then some false
  else none

/-! ## Integers -/

def digitValue? (base : Nat) (character : Char) : Option Nat :=
  (hexDigit? character).filter (· < base)

/-- The number that digits stand for, if all of them are digits and there is one. -/
def readDigits? (base : Nat) (characters : List Char) : Option Nat :=
  if characters.isEmpty then none
  else characters.foldlM (fun value character =>
    (digitValue? base character).map (value * base + ·)) 0

/-- The digits of a number and their base, told by what it starts with. -/
def splitBase : List Char → Nat × List Char
  | '0' :: 'x' :: digits => (16, digits)
  | '0' :: 'o' :: digits => (8, digits)
  | '0' :: 'b' :: digits => (2, digits)
  | digits => (10, digits)

def readMagnitude? (characters : List Char) : Option Nat :=
  let (base, digits) := splitBase characters
  readDigits? base digits

/-- Whether a text consists of digits with a zero before them. Such a text is no number. -/
def isZeroPadded (characters : List Char) : Bool :=
  let digits := match characters with
    | '+' :: rest => rest
    | '-' :: rest => rest
    | rest => rest
  1 < digits.length && digits.head? == some '0' && digits.all Char.isDigit

/-- The integer that a text stands for, if it has at most 128 bits. -/
def readInteger? (text : String) : Option Int :=
  let characters := text.toList
  if isZeroPadded characters then none
  else match characters with
    | '-' :: rest =>
        (readMagnitude? rest).bind fun size =>
          if size ≤ Nat.pow 2 127 then some (-(size : Int)) else none
    | characters =>
        let digits := if characters.head? == some '+' then characters.drop 1 else characters
        (readMagnitude? digits).bind fun size =>
          if size < Nat.pow 2 128 then some (size : Int) else none

/-! ## Fractions -/

/-- The exponent that a number ends with, zero if it ends without one. -/
def readExponent? : List Char → Option Int
  | [] => some 0
  | letter :: rest =>
      if letter != 'e' && letter != 'E' then none
      else match rest with
        | '-' :: digits => (readDigits? 10 digits).map fun size => -(size : Int)
        | '+' :: digits => (readDigits? 10 digits).map fun size => (size : Int)
        | digits => (readDigits? 10 digits).map fun size => (size : Int)

/-- `digits * 10 ^ exponent`, unless it is too large. -/
def nearestDouble? (isNegative : Bool) (digits : Nat) (exponent : Int) : Option Json.Double :=
  let length : Int := Json.Double.digitCount digits
  if digits == 0 || length + exponent < -400 then some (.zero isNegative)
  else if 400 < length + exponent then none
  else
    let (top, bottom) := Json.Double.Decimal.ratio ⟨digits, exponent⟩
    Json.Double.ofRatio isNegative top bottom

/-- The number that digits, a fraction and an exponent stand for. -/
def readUnsignedDouble? (isNegative : Bool) (characters : List Char) : Option Json.Double :=
  let whole := characters.takeWhile Char.isDigit
  let rest := characters.dropWhile Char.isDigit
  let (fraction, rest) := match rest with
    | '.' :: rest => (rest.takeWhile Char.isDigit, rest.dropWhile Char.isDigit)
    | rest => ([], rest)
  match readDigits? 10 (whole ++ fraction), readExponent? rest with
  | some digits, some exponent =>
      nearestDouble? isNegative digits (exponent - fraction.length)
  | _, _ => none

/-- The number with a fraction or exponent that a text stands for. -/
def readDouble? (text : String) : Option Meaning :=
  let characters := text.toList
  let positive := if characters.head? == some '+' then characters.drop 1 else characters
  if [".inf", ".Inf", ".INF"].contains (String.ofList positive) then some (.limit "inf")
  else if ["-.inf", "-.Inf", "-.INF"].contains text then some (.limit "-inf")
  else if [".nan", ".NaN", ".NAN"].contains text then some (.limit "NaN")
  else match characters with
    | '-' :: rest => (readUnsignedDouble? true rest).map .double
    | _ => (readUnsignedDouble? false positive).map .double

/-! ## All meanings -/

/-- What a plain text without a tag stands for. -/
def plainMeaning (text : String) : Meaning :=
  if text.isEmpty || (readNothing? text).isSome then .nothing
  else match readBool? text, readInteger? text with
    | some value, _ => .bool value
    | none, some value => .integer value
    | none, none =>
        if isZeroPadded text.toList then .text text else (readDouble? text).getD (.text text)

def kindTag (kind : String) : String := "tag:yaml.org,2002:" ++ kind

/-- What a text stands for; otherwise what its tag asks for in vain. -/
def Scalar.meaning (scalar : Scalar) : Except String Meaning :=
  let text := scalar.text
  let untagged := if scalar.style == .plain then plainMeaning text else .text text
  match scalar.tag with
  | none => .ok untagged
  | some tag =>
      let asked (meaning : Option Meaning) (expected : String) : Except String Meaning :=
        match meaning with
        | some meaning => .ok meaning
        | none => .error expected
      if tag == kindTag "bool" then asked ((readBool? text).map .bool) "a boolean"
      else if tag == kindTag "int" then asked ((readInteger? text).map .integer) "an integer"
      else if tag == kindTag "float" then asked (readDouble? text) "a float"
      else if tag == kindTag "null" then
        asked ((readNothing? text).map fun _ => .nothing) "null"
      else if tag.startsWith "!" then .ok untagged
      else .ok (.text text)

/-- Whether a text may stand for a value of a kind: if it is plain, or a block with the kind's tag. -/
def Scalar.mayBe (scalar : Scalar) (kind : String) : Bool :=
  scalar.style == .plain || (scalar.style == .literal && scalar.tag == some (kindTag kind))

end RepoSurvey.Yaml
