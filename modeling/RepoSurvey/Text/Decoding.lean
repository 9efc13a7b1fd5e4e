/-!
# Texts from bytes

Bytes are read as UTF-8.  Where they are not well formed, each longest run that could be the start of a
character, or else a single byte, gives one replacement character.
-/

namespace RepoSurvey

def replacementCharacter : Char := '\uFFFD'

/-- How a character of several bytes goes on after its first byte. -/
structure Continuation where
  /-- The bits from the bytes read so far. -/
  bits : Nat
  /-- How many bytes are still to come. -/
  count : Nat
  /-- Between which bounds the next byte lies. -/
  low : UInt8 := 0x80
  high : UInt8 := 0xBF
  deriving Repr

/-- What may follow the first byte of a character of several bytes. -/
def continuation? (byte : UInt8) : Option Continuation :=
  let value := byte.toNat
  if value < 0xC2 then none
  else if value < 0xE0 then some { bits := value % 0x20, count := 1 }
  else if value = 0xE0 then some { bits := 0, count := 2, low := 0xA0 }
  else if value = 0xED then some { bits := 0xD, count := 2, high := 0x9F }
  else if value < 0xF0 then some { bits := value % 0x10, count := 2 }
  else if value = 0xF0 then some { bits := 0, count := 3, low := 0x90 }
  else if value < 0xF4 then some { bits := value % 0x8, count := 3 }
  else if value = 0xF4 then some { bits := 4, count := 3, high := 0x8F }
  else none

/-- Reads the rest of a character, as far as the bytes go on as they should. If they do not,
`replacement` stands for them. -/
def Continuation.read (replacement : Char) (expected : Continuation) :
    List UInt8 → Char × List UInt8
  | [] => (if expected.count = 0 then Char.ofNat expected.bits else replacement, [])
  | byte :: rest =>
      if expected.count = 0 then (Char.ofNat expected.bits, byte :: rest)
      else if expected.low ≤ byte && byte ≤ expected.high then
        Continuation.read replacement
          { bits := expected.bits * 0x40 + byte.toNat % 0x40, count := expected.count - 1 } rest
      else (replacement, byte :: rest)

theorem Continuation.read_length_le (replacement : Char) (expected : Continuation)
    (bytes : List UInt8) : (expected.read replacement bytes).2.length ≤ bytes.length := by
  induction bytes generalizing expected with
  | nil => simp [Continuation.read]
  | cons byte rest ih =>
      unfold Continuation.read
      split
      · exact Nat.le_refl _
      · split
        · exact Nat.le_succ_of_le (ih _)
        · exact Nat.le_refl _

/-- Reads characters from bytes and puts them before `decoded`, the last one first. -/
def decodeOnto (replacement : Char) (decoded : List Char) (bytes : List UInt8) : List Char :=
  match bytes with
  | [] => decoded
  | byte :: rest =>
      if byte < 0x80 then decodeOnto replacement (Char.ofNat byte.toNat :: decoded) rest
      else
        match continuation? byte with
        | none => decodeOnto replacement (replacement :: decoded) rest
        | some expected =>
            let read := expected.read replacement rest
            decodeOnto replacement (read.1 :: decoded) read.2
  termination_by bytes.length
  decreasing_by
    · exact Nat.lt_succ_self _
    · exact Nat.lt_succ_self _
    · exact Nat.lt_succ_of_le (expected.read_length_le replacement rest)

/-- The text that some bytes stand for, with a character in place of bytes that stand for none. -/
def decodeTextWith (replacement : Char) (bytes : ByteArray) : String :=
  match String.fromUTF8? bytes with
  | some text => text
  | none => String.ofList (decodeOnto replacement [] bytes.toList).reverse

/-- The text that some bytes stand for. -/
def decodeText (bytes : ByteArray) : String := decodeTextWith replacementCharacter bytes

/-- Reads characters from pairs of bytes, two pairs for the characters that do not fit into one. `unit`
tells the number that a pair stands for. -/
def decodePairs (unit : UInt8 → UInt8 → Nat) : List UInt8 → List Char
  | [] => []
  | [_] => [replacementCharacter]
  | first :: second :: rest =>
      let lead := unit first second
      if lead < 0xD800 || 0xE000 ≤ lead then Char.ofNat lead :: decodePairs unit rest
      else if 0xDC00 ≤ lead then replacementCharacter :: decodePairs unit rest
      else
        match rest with
        | third :: fourth :: others =>
            let trail := unit third fourth
            if 0xDC00 ≤ trail && trail < 0xE000 then
              Char.ofNat (0x10000 + (lead - 0xD800) * 0x400 + (trail - 0xDC00)) ::
                decodePairs unit others
            else replacementCharacter :: decodePairs unit (third :: fourth :: others)
        | _ => [replacementCharacter]

/-- The text that some bytes stand for. A mark at their start tells how they are to be read. -/
def decodeMarkedText (bytes : ByteArray) : String :=
  match bytes.toList with
  | 0xEF :: 0xBB :: 0xBF :: rest => decodeText ⟨rest.toArray⟩
  | 0xFE :: 0xFF :: rest =>
      String.ofList (decodePairs (fun high low => high.toNat * 0x100 + low.toNat) rest)
  | 0xFF :: 0xFE :: rest =>
      String.ofList (decodePairs (fun low high => high.toNat * 0x100 + low.toNat) rest)
  | _ => decodeText bytes

end RepoSurvey
