import RepoSurvey.Text.Trim

/-!
# Slices of texts

Texts are kept in bytes, and places in them are told in bytes.  Characters may have several bytes, so a
text cannot be cut everywhere: the cut has to be where a character starts, or at the end.
-/

namespace RepoSurvey

/-- Whether a byte belongs to a character that has started before it. -/
def continuesCharacter (byte : UInt8) : Bool := 0x80 ≤ byte && byte < 0xC0

/-- Whether a text can be cut after some bytes. -/
def isBoundary (text : String) (index : Nat) : Bool :=
  index == 0 ||
    if _ : index < text.toUTF8.size then !continuesCharacter text.toUTF8[index]
    else index == text.toUTF8.size

/-- The first bytes of a text, as a text of their own. There is none if they end inside a character, or
if there are not as many. -/
def firstBytes? (index : Nat) (text : String) : Option String :=
  if isBoundary text index then String.fromUTF8? (text.toUTF8.extract 0 index) else none

/-- Where characters start, in bytes, if the first one starts at `index`. -/
def startsFrom (index : Nat) : List Char → List Nat
  | [] => []
  | character :: rest => index :: startsFrom (index + character.utf8Size) rest

/-- Where the characters of a text start, in bytes. -/
def characterStarts (text : String) : List Nat := startsFrom 0 text.toList

theorem startsFrom_getElem? (index : Nat) (characters : List Char) (count : Nat) :
    (startsFrom index characters)[count]? =
      if count < characters.length then
        some (index + (String.ofList (characters.take count)).utf8ByteSize)
      else none := by
  induction characters generalizing index count with
  | nil => simp [startsFrom]
  | cons character rest ih =>
      cases count with
      | zero => simp [startsFrom]
      | succ count =>
          rw [startsFrom, List.getElem?_cons_succ, ih, List.length_cons, List.take_succ_cons,
            String.ofList_cons, String.utf8ByteSize_append, String.utf8ByteSize_singleton,
            Nat.add_assoc]
          simp only [Nat.add_lt_add_iff_right]

/-- The first byte of a character does not continue another one. -/
theorem continuesCharacter_first (character : Char)
    (isIn : 0 < (String.utf8EncodeChar character).length) :
    continuesCharacter (String.utf8EncodeChar character)[0] = false := by
  have bound : character.val.toNat < 0x110000 := by
    have := character.valid
    simp only [UInt32.isValidChar, Nat.isValidChar] at this
    omega
  have outside {number : Nat} (isByte : number < 0x100) (isOther : number < 0x80 ∨ 0xC0 ≤ number) :
      continuesCharacter (UInt8.ofNat number) = false := by
    rw [continuesCharacter, Bool.and_eq_false_iff, decide_eq_false_iff_not, decide_eq_false_iff_not,
      UInt8.le_iff_toNat_le, UInt8.lt_iff_toNat_lt, UInt8.toNat_ofNat_of_lt' isByte]
    change ¬ 0x80 ≤ number ∨ ¬ number < 0xC0
    omega
  -- The encodings differ in length, but each is written out with its first byte.
  simp only [String.utf8EncodeChar]
  split
  · exact outside (by omega) (by omega)
  · split
    · exact outside (by omega) (by omega)
    · split
      · exact outside (by omega) (by omega)
      · exact outside (by omega) (by omega)

/-- The byte at which a text starts does not continue a character. -/
theorem continuesCharacter_text (text : String) {index : Nat} (isFirst : index = 0)
    (isIn : index < text.toByteArray.size) : continuesCharacter text.toByteArray[index] = false := by
  subst isFirst
  have bytes_eq : text.toByteArray = (text.toList.flatMap String.utf8EncodeChar).toByteArray := by
    rw [← List.utf8Encode, ← String.toByteArray_ofList, String.ofList_toList]
  cases characters_eq : text.toList with
  | nil =>
      rw [characters_eq] at bytes_eq
      rw [bytes_eq] at isIn
      exact absurd isIn (Nat.lt_irrefl 0)
  | cons character rest =>
      rw [characters_eq, List.flatMap_cons] at bytes_eq
      have isFirst : 0 < (String.utf8EncodeChar character).length :=
        List.length_pos_iff.mpr String.utf8EncodeChar_ne_nil
      rw [getElem_congr_coll bytes_eq, List.getElem_toByteArray, List.getElem_append_left isFirst]
      exact continuesCharacter_first character isFirst

/-- A text can be cut between two texts that it is put together from. -/
theorem isBoundary_append (before after : String) :
    isBoundary (before ++ after) before.utf8ByteSize = true := by
  have bytes_eq : (before ++ after).toUTF8 = before.toByteArray ++ after.toByteArray := by
    rw [String.toUTF8_eq_toByteArray, String.toByteArray_append]
  have size_eq : (before ++ after).toUTF8.size = before.utf8ByteSize + after.utf8ByteSize := by
    rw [bytes_eq, ByteArray.size_append, String.size_toByteArray, String.size_toByteArray]
  rw [isBoundary, Bool.or_eq_true]
  right
  split
  · rename_i inside
    have size_le : before.toByteArray.size ≤ before.utf8ByteSize :=
      Nat.le_of_eq String.size_toByteArray
    rw [getElem_congr_coll bytes_eq, ByteArray.getElem_append_right size_le,
      continuesCharacter_text after (by rw [String.size_toByteArray, Nat.sub_self])]
    rfl
  · rw [beq_iff_eq]
    omega

theorem fromUTF8?_eq_some_iff {bytes : ByteArray} {text : String} :
    String.fromUTF8? bytes = some text ↔ bytes = text.toUTF8 := by
  constructor
  · intro isText
    rw [String.fromUTF8?] at isText
    split at isText
    · cases isText
      rfl
    · cases isText
  · rintro rfl
    rw [String.fromUTF8?, String.toUTF8_eq_toByteArray, dif_pos text.isValidUTF8]
    rfl

theorem firstBytes?_append (before after : String) :
    firstBytes? before.utf8ByteSize (before ++ after) = some before := by
  rw [firstBytes?, if_pos (isBoundary_append before after), fromUTF8?_eq_some_iff,
    String.toUTF8_eq_toByteArray, String.toByteArray_append]
  exact ByteArray.extract_append_eq_left rfl

/-- Every place where a character starts is one where the text can be cut, and the characters before it
are what is cut off. -/
theorem characterStarts_getElem? {text : String} {count index : Nat}
    (isStart : (characterStarts text)[count]? = some index) :
    count < text.length ∧ isBoundary text index = true ∧
      firstBytes? index text = some (firstChars count text) := by
  rw [characterStarts, startsFrom_getElem?, Nat.zero_add] at isStart
  split at isStart
  · rename_i isInside
    cases isStart
    have parts : text = firstChars count text ++ String.ofList (text.toList.drop count) := by
      rw [firstChars, ← String.ofList_append, List.take_append_drop, String.ofList_toList]
    have cut := firstBytes?_append (firstChars count text) (String.ofList (text.toList.drop count))
    have canCut := isBoundary_append (firstChars count text) (String.ofList (text.toList.drop count))
    rw [← parts] at cut canCut
    exact ⟨isInside, canCut, cut⟩
  · cases isStart

/-- There is no place for a character that a text does not have. -/
theorem characterStarts_eq_none_iff {text : String} {count : Nat} :
    (characterStarts text)[count]? = none ↔ text.length ≤ count := by
  rw [characterStarts, startsFrom_getElem?, String.length_toList]
  split
  · simp only [reduceCtorEq, false_iff]
    omega
  · simp only [true_iff]
    omega

end RepoSurvey
