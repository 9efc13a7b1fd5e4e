import RepoSurvey.Json.Located

/-!
# Reading documents

One character at a time: what is being read, and in which containers.  Nesting is kept in a list, so
its depth is not limited.
-/

namespace RepoSurvey.Json

/-! ## Texts -/

/-- Where the reader is inside quotation marks. -/
inductive TextPhase
  | plain
  | escape
  /-- Inside the four bytes after `\u`: how many are missing, the value so far, whether all were
  digits, and the first half of a pair. -/
  | hex (missing : Nat) (value : Nat) (isSound : Bool) (lead : Option Nat)
  | needsBackslash (lead : Nat)
  | needsLetter (lead : Nat)
  deriving Repr

structure TextProgress where
  isKey : Bool
  start : Spot
  text : String := ""
  phase : TextPhase := .plain
  /-- The first thing wrong with the text that does not end the reading. -/
  error : Option ReadError := none

namespace TextProgress

def push (progress : TextProgress) (character : Char) : TextProgress :=
  { progress with text := progress.text.push character, phase := .plain }

def blame (progress : TextProgress) (fault : Fault) (spot : Spot) : TextProgress :=
  { progress with error := progress.error <|> some ⟨fault, spot⟩, phase := .plain }

def hexValue (character : Char) : Option Nat :=
  if character.isDigit then some (character.toNat - '0'.toNat)
  else if 'a' ≤ character && character ≤ 'f' then some (character.toNat - 'a'.toNat + 10)
  else if 'A' ≤ character && character ≤ 'F' then some (character.toNat - 'A'.toNat + 10)
  else none

/-- What a backslash and a letter stand for. -/
def unescape : Char → Option Char
  | '"' => some '"'
  | '\\' => some '\\'
  | '/' => some '/'
  | 'b' => some '\x08'
  | 'f' => some '\x0c'
  | 'n' => some '\n'
  | 'r' => some '\r'
  | 't' => some '\t'
  | _ => none

/-- Ends an escape of four digits. -/
def finishHex (progress : TextProgress) (value : Nat) (lead : Option Nat) (spot : Spot) :
    TextProgress :=
  let isTrailing := 0xDC00 ≤ value && value ≤ 0xDFFF
  match lead with
  | none =>
      if isTrailing then progress.blame .loneSurrogate spot
      else if 0xD800 ≤ value && value ≤ 0xDBFF then { progress with phase := .needsBackslash value }
      else progress.push (Char.ofNat value)
  | some lead =>
      if isTrailing then
        progress.push (Char.ofNat ((lead - 0xD800) * 0x400 + (value - 0xDC00) + 0x10000))
      else progress.blame .loneSurrogate spot

/-- Reads four digits further. -/
def stepHex (progress : TextProgress) (missing value : Nat) (isSound : Bool) (lead : Option Nat)
    (spot : Spot) (character : Char) : Except ReadError TextProgress :=
  let width := min missing character.utf8Size
  let (value, isSound) := match hexValue character with
    | some digit => (value * 16 + digit, isSound)
    | none => (value, false)
  if width < missing then
    .ok { progress with phase := .hex (missing - width) value isSound lead }
  else
    let stop := if character == '\n' then spot.after character else ⟨spot.line, spot.column + width⟩
    if isSound then .ok (progress.finishHex value lead stop) else .error ⟨.badEscape, stop⟩

/-- Reads one more character of a text; `none` when the text ends with it. -/
def step (progress : TextProgress) (spot : Spot) (character : Char) :
    Except ReadError (Option TextProgress) :=
  match progress.phase with
  | .plain =>
      if character == '"' then .ok none
      else if character == '\\' then .ok (some { progress with phase := .escape })
      else if character.toNat < 0x20 then .error ⟨.controlCharacter, spot.into character⟩
      else .ok (some (progress.push character))
  | .escape =>
      if character == 'u' then .ok (some { progress with phase := .hex 4 0 true none })
      else
        match unescape character with
        | some meant => .ok (some (progress.push meant))
        | none => .error ⟨.badEscape, spot.into character⟩
  | .hex missing value isSound lead =>
      (progress.stepHex missing value isSound lead spot character).map some
  | .needsBackslash lead =>
      if character == '\\' then .ok (some { progress with phase := .needsLetter lead })
      else
        let blamed := progress.blame .unfinishedEscape (spot.into character)
        if character == '"' then .ok none
        else if character.toNat < 0x20 then .error ⟨.unfinishedEscape, spot.into character⟩
        else .ok (some (blamed.push character))
  | .needsLetter lead =>
      if character == 'u' then .ok (some { progress with phase := .hex 4 0 true (some lead) })
      else
        let blamed := progress.blame .unfinishedEscape (spot.into character)
        match unescape character with
        | some meant => .ok (some (blamed.push meant))
        | none => .error ⟨.unfinishedEscape, spot.into character⟩

end TextProgress

/-! ## Numbers -/

/-- Where the reader is inside a number. -/
inductive NumberPhase
  /-- After a minus sign. -/
  | sign
  /-- After a leading zero. -/
  | zero
  | digits
  /-- In an integer too long to be kept exactly. -/
  | long
  /-- After the point. -/
  | point
  | fraction
  /-- In digits that are no longer of weight. -/
  | lostFraction
  /-- After the letter of the exponent. -/
  | exponent
  | exponentSign
  | exponentDigits
  /-- In an exponent that is too large to be counted. -/
  | lostExponent
  deriving DecidableEq, Repr

structure NumberProgress where
  start : Spot
  isNegative : Bool
  phase : NumberPhase
  significand : Nat := 0
  /-- The power of ten, without the exponent as it is written. -/
  shift : Int := 0
  isSmall : Bool := false
  exponent : Nat := 0
  error : Option ReadError := none

namespace NumberProgress

def largestExponent : Nat := Nat.pow 2 31 - 1

/-- What a character does to a number: it belongs to it, ends it, or cannot stand there. -/
inductive Step
  | more (progress : NumberProgress)
  | over
  | bad

private def toExponent (progress : NumberProgress) : Step :=
  .more { progress with phase := .exponent }

private def toPoint (progress : NumberProgress) : Step := .more { progress with phase := .point }

def step (progress : NumberProgress) (spot : Spot) (character : Char) : Step :=
  let isExponent := character == 'e' || character == 'E'
  let digit := character.toNat - '0'.toNat
  let longer := progress.significand * 10 + digit
  let longerExponent := progress.exponent * 10 + digit
  match progress.phase with
  | .sign =>
      if character == '0' then .more { progress with phase := .zero }
      else if character.isDigit then .more { progress with phase := .digits, significand := digit }
      else .bad
  | .zero =>
      if character.isDigit then .bad
      else if character == '.' then progress.toPoint
      else if isExponent then progress.toExponent
      else .over
  | .digits =>
      if character.isDigit then
        if longer ≤ largestInteger then .more { progress with significand := longer }
        else .more { progress with phase := .long, shift := progress.shift + 1 }
      else if character == '.' then progress.toPoint
      else if isExponent then progress.toExponent
      else .over
  | .long =>
      if character.isDigit then .more { progress with shift := progress.shift + 1 }
      else if character == '.' then progress.toPoint
      else if isExponent then progress.toExponent
      else .over
  | .point | .fraction =>
      if character.isDigit then
        if longer ≤ largestInteger then
          .more { progress with
            phase := .fraction, significand := longer, shift := progress.shift - 1 }
        else .more { progress with phase := .lostFraction }
      else if progress.phase == .point then .bad
      else if isExponent then progress.toExponent
      else .over
  | .lostFraction =>
      if character.isDigit then .more progress
      else if isExponent then progress.toExponent
      else .over
  | .exponent =>
      if character == '+' then .more { progress with phase := .exponentSign }
      else if character == '-' then .more { progress with phase := .exponentSign, isSmall := true }
      else if character.isDigit then
        .more { progress with phase := .exponentDigits, exponent := digit }
      else .bad
  | .exponentSign =>
      if character.isDigit then .more { progress with phase := .exponentDigits, exponent := digit }
      else .bad
  | .exponentDigits =>
      if character.isDigit then
        if longerExponent ≤ largestExponent then .more { progress with exponent := longerExponent }
        else
          let error : Option ReadError :=
            if progress.significand != 0 && !progress.isSmall then
              some ⟨.numberTooLarge, spot.after character⟩
            else none
          .more { progress with phase := .lostExponent, error }
      else .over
  | .lostExponent => if character.isDigit then .more progress else .over

/-- The number that was read, if it ends at `spot`. -/
def finish (progress : NumberProgress) (spot : Spot) : Except ReadError Number :=
  let whole : Except ReadError Number :=
    if !progress.isNegative then .ok (.integer progress.significand)
    else if progress.significand == 0 || Nat.pow 2 63 < progress.significand then
      .ok (.double ((Double.ofRatio true progress.significand 1).getD (.zero true)))
    else .ok (.integer (-(progress.significand : Int)))
  match progress.error, progress.phase with
  | some error, _ => .error error
  | none, .zero | none, .digits => whole
  | none, .lostExponent => .ok (.double (.zero progress.isNegative))
  | none, _ =>
      let exponent : Int := if progress.isSmall then -progress.exponent else progress.exponent
      match scaleByTen progress.isNegative progress.significand (progress.shift + exponent) with
      | some value => .ok (.double value)
      | none => .error ⟨.numberTooLarge, spot⟩

/-- Whether a number may end here. -/
def canEnd (progress : NumberProgress) : Bool :=
  !([.sign, .point, .exponent, .exponentSign] : List NumberPhase).contains progress.phase

end NumberProgress

/-! ## Containers -/

/-- A container that is being read, its parts in reverse. -/
inductive Frame
  | array (start : Spot) (items : List Located)
  | object (start : Spot) (members : List (LocatedKey × Option Located)) (key : Option LocatedKey)

inductive Phase
  | value
  | firstItem
  | nextItem
  | firstKey
  | nextKey
  /-- After a key. -/
  | colon (text : Except ReadError String) (stop : Spot)
  | afterItem
  | afterMember
  /-- After the whole document. -/
  | done (root : Located)
  | word (start : Spot) (rest : List Char) (leaf : Leaf)
  | text (progress : TextProgress)
  | number (progress : NumberProgress)

structure Reader where
  phase : Phase := .value
  frames : List Frame := []

def isBlank (character : Char) : Bool :=
  character == ' ' || character == '\n' || character == '\t' || character == '\r'

namespace Reader

/-- Puts a finished value where it belongs. -/
def give (frames : List Frame) (value : Located) : Reader :=
  match frames with
  | [] => ⟨.done value, []⟩
  | .array start items :: rest => ⟨.afterItem, .array start (value :: items) :: rest⟩
  | .object start members key :: rest =>
      let members := match key with
        | some key => (key, some value) :: members
        | none => members
      ⟨.afterMember, .object start members none :: rest⟩

/-- Closes the innermost container. -/
def close (frames : List Frame) (stop : Spot) : Reader :=
  match frames with
  | [] => ⟨.value, []⟩
  | .array start items :: rest => give rest (.array start items.reverse (.closed stop))
  | .object start members _ :: rest => give rest (.object start members.reverse (.closed stop))

/-- Starts a value with its first character. -/
def begin (frames : List Frame) (spot : Spot) (character : Char) : Except ReadError Reader :=
  let word (rest : String) (leaf : Leaf) : Except ReadError Reader :=
    .ok ⟨.word spot rest.toList leaf, frames⟩
  let number (isNegative : Bool) (phase : NumberPhase) (significand : Nat) :
      Except ReadError Reader :=
    .ok ⟨.number { start := spot, isNegative, phase, significand }, frames⟩
  if character == '"' then
    .ok ⟨.text { isKey := false, start := spot }, frames⟩
  else if character == '[' then .ok ⟨.firstItem, .array spot [] :: frames⟩
  else if character == '\x7b' then .ok ⟨.firstKey, .object spot [] none :: frames⟩
  else if character == '-' then number true .sign 0
  else if character == '0' then number false .zero 0
  else if character.isDigit then number false .digits (character.toNat - '0'.toNat)
  else if character == 'n' then word "ull" .null
  else if character == 't' then word "rue" (.bool true)
  else if character == 'f' then word "alse" (.bool false)
  else .error ⟨.noValue, spot.into character⟩

/-- Reads a character that stands between values. -/
def stepBetween (reader : Reader) (spot : Spot) (character : Char) : Except ReadError Reader :=
  let frames := reader.frames
  let fail (fault : Fault) : Except ReadError Reader := .error ⟨fault, spot.into character⟩
  let key : Except ReadError Reader := .ok ⟨.text { isKey := true, start := spot }, frames⟩
  if isBlank character then .ok reader
  else
    match reader.phase with
    | .firstItem =>
        if character == ']' then .ok (close frames (spot.after character))
        else begin frames spot character
    | .nextItem => if character == ']' then fail .commaAtEnd else begin frames spot character
    | .afterItem =>
        if character == ']' then .ok (close frames (spot.after character))
        else if character == ',' then .ok ⟨.nextItem, frames⟩
        else fail .noCommaInList
    | .firstKey =>
        if character == '\x7d' then .ok (close frames (spot.after character))
        else if character == '"' then key
        else fail .keyNotText
    | .nextKey =>
        if character == '"' then key
        else if character == '\x7d' then fail .commaAtEnd
        else fail .keyNotText
    | .colon text stop =>
        if character == ':' then
          match frames with
          | .object start members _ :: rest =>
              .ok ⟨.value, .object start members (some ⟨text, stop, spot⟩) :: rest⟩
          | _ => .ok ⟨.value, frames⟩
        else fail .noColon
    | .afterMember =>
        if character == '\x7d' then .ok (close frames (spot.after character))
        else if character == ',' then .ok ⟨.nextKey, frames⟩
        else fail .noCommaInObject
    | .done _ => fail .textAfterEnd
    | _ => begin frames spot character

/-- Reads one character at `spot`. -/
def step (reader : Reader) (spot : Spot) (character : Char) : Except ReadError Reader :=
  let frames := reader.frames
  match reader.phase with
  | .word start rest leaf =>
      match rest with
      | [] => .ok reader
      | [last] =>
          if character == last then .ok (give frames (.leaf leaf start (spot.after character)))
          else .error ⟨.noWord, spot.into character⟩
      | wanted :: rest =>
          if character == wanted then .ok ⟨.word start rest leaf, frames⟩
          else .error ⟨.noWord, spot.into character⟩
  | .text progress =>
      match progress.step spot character with
      | .error error => .error (progress.error.getD error)
      | .ok (some progress) => .ok ⟨.text progress, frames⟩
      | .ok none =>
          let stop := spot.after character
          -- A text that ends where half of a pair is missing is unreadable.
          let error := match progress.phase with
            | .needsBackslash _ => progress.error <|> some ⟨.unfinishedEscape, stop⟩
            | _ => progress.error
          let text := match error with
            | some error => .error error
            | none => .ok progress.text
          if progress.isKey then .ok ⟨.colon text stop, frames⟩
          else .ok (give frames (.leaf (.string text) progress.start stop))
  | .number progress =>
      match progress.step spot character with
      | .more progress => .ok ⟨.number progress, frames⟩
      | .bad => .error ⟨.badNumber, spot.into character⟩
      | .over =>
          let leaf : Leaf := .number (progress.finish spot)
          stepBetween (give frames (.leaf leaf progress.start spot)) spot character
  | _ => stepBetween reader spot character

/-- The fault of a text that ends at this point, if it may not. -/
def faultAtEnd (reader : Reader) : Option Fault :=
  match reader.phase with
  | .value | .nextItem | .nextKey | .word .. => some .endInValue
  | .firstItem | .afterItem => some .endInList
  | .firstKey | .colon .. | .afterMember => some .endInObject
  | .text _ => some .endInString
  | .number progress => if progress.canEnd then none else some .endInValue
  | .done _ => none

/-- Ends all open containers with a fault. -/
def breakOff (error : ReadError) : List Frame → Option Located → Option Located
  | [], inner => inner
  | .array start items :: rest, inner =>
      breakOff error rest
        (some (.array start (inner.toList ++ items).reverse (.broken error)))
  | .object start members key :: rest, inner =>
      let members := match key with
        | some key => (key, inner) :: members
        | none => members
      breakOff error rest (some (.object start members.reverse (.broken error)))

/-- Ends the reading with a fault. A key that has just been read is kept. -/
def abandon (reader : Reader) (error : ReadError) : LocatedDocument :=
  match reader.phase with
  | .done root => ⟨some root, some error⟩
  | .colon text stop =>
      let frames := match reader.frames with
        | .object start members _ :: rest =>
            .object start members (some ⟨text, stop, error.spot⟩) :: rest
        | frames => frames
      ⟨breakOff error frames none, some error⟩
  | .number progress =>
      if progress.canEnd then
        -- The number is whole; what comes after it is at fault.
        let reader := give reader.frames (.leaf (.number (progress.finish error.spot))
          progress.start error.spot)
        match reader.phase with
        | .done root => ⟨some root, some error⟩
        | _ => ⟨breakOff error reader.frames none, some error⟩
      else ⟨breakOff error reader.frames none, some error⟩
  | _ => ⟨breakOff error reader.frames none, some error⟩

/-- The end of the text at `spot`. -/
def finish (reader : Reader) (spot : Spot) : LocatedDocument :=
  let reader := match reader.phase with
    | .number progress =>
        if progress.canEnd then
          give reader.frames (.leaf (.number (progress.finish spot)) progress.start spot)
        else reader
    | _ => reader
  match reader.faultAtEnd, reader.phase with
  | none, .done root => ⟨some root, none⟩
  | _, .text progress => reader.abandon (progress.error.getD ⟨.endInString, spot⟩)
  | fault, _ => reader.abandon ⟨fault.getD .endInValue, spot⟩

/-- Reads the rest of a text. -/
def run (reader : Reader) (spot : Spot) : List Char → LocatedDocument
  | [] => reader.finish spot
  | character :: rest =>
      match reader.step spot character with
      | .error error => reader.abandon error
      | .ok next => run next (spot.after character) rest

end Reader

/-- Reads a text with the places of its parts. -/
def locate (text : String) : LocatedDocument := Reader.run {} {} text.toList

/-- The value of a text, or the first fault in it. -/
def read (text : String) : Except ReadError Value := (locate text).value

end RepoSurvey.Json
