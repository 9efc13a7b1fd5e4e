import Mathlib.Tactic.SplitIfs
import RepoSurvey.Text.Trim

/-!
# The case of letters

Making ASCII capitals small changes no sign: full stops and slashes stay where they are, and none comes
in.
-/

namespace RepoSurvey

theorem toLower_toLower (character : Char) : character.toLower.toLower = character.toLower := by
  unfold Char.toLower
  grind

/-- A character that comes before the letters is made from itself only. -/
theorem toLower_eq_iff {character sign : Char} (isSign : sign.toNat < 'A'.toNat) :
    character.toLower = sign ↔ character = sign := by
  unfold Char.toLower
  split_ifs with isCapital
  · obtain ⟨low, high⟩ := isCapital
    rw [ge_iff_le, UInt32.le_iff_toNat_le] at low
    rw [UInt32.le_iff_toNat_le] at high
    have isLow : 65 ≤ character.toNat := low
    have isHigh : character.toNat ≤ 90 := high
    have isSmall : sign.toNat < 65 := isSign
    have distance : ('a'.val - 'A'.val).toNat = 32 := rfl
    constructor
    · rintro rfl
      simp only [Char.toNat, UInt32.toNat_add] at isSmall isLow isHigh
      omega
    · rintro rfl
      omega
  · exact Iff.rfl

theorem toList_asciiLower (text : String) :
    (asciiLower text).toList = text.toList.map Char.toLower :=
  String.toList_map

theorem asciiLower_empty : asciiLower "" = "" := by rw [asciiLower, String.map_eq_empty]

theorem asciiLower_asciiLower (text : String) : asciiLower (asciiLower text) = asciiLower text := by
  apply String.toList_inj.mp
  rw [toList_asciiLower, toList_asciiLower, List.map_map]
  exact List.map_congr_left fun character _ => toLower_toLower character

theorem asciiLower_ofList (characters : List Char) :
    asciiLower (String.ofList characters) = String.ofList (characters.map Char.toLower) := by
  apply String.toList_inj.mp
  rw [toList_asciiLower, String.toList_ofList, String.toList_ofList]

theorem mem_map_toLower_iff {characters : List Char} {sign : Char}
    (isSign : sign.toNat < 'A'.toNat) : sign ∈ characters.map Char.toLower ↔ sign ∈ characters := by
  simp only [List.mem_map, toLower_eq_iff isSign, exists_eq_right]

private theorem map_toLower_eq_iff {characters signs : List Char}
    (areSigns : ∀ sign ∈ signs, sign.toNat < 'A'.toNat) :
    characters.map Char.toLower = signs ↔ characters = signs := by
  induction signs generalizing characters with
  | nil => exact List.map_eq_nil_iff
  | cons sign rest ih =>
      rw [List.forall_mem_cons] at areSigns
      cases characters with
      | nil => simp
      | cons character others =>
          rw [List.map_cons, List.cons_eq_cons, List.cons_eq_cons, toLower_eq_iff areSigns.1,
            ih areSigns.2]

/-- A text without letters is made from itself only. -/
theorem asciiLower_eq_iff {text signs : String}
    (areSigns : signs.toList.all fun sign => sign.toNat < 'A'.toNat) :
    asciiLower text = signs ↔ text = signs := by
  simp only [List.all_eq_true, decide_eq_true_eq] at areSigns
  rw [← String.toList_inj, toList_asciiLower, map_toLower_eq_iff areSigns, String.toList_inj]

end RepoSurvey
