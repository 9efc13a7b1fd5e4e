import Mathlib.Data.List.Lex
import Mathlib.Data.List.Nodup
import Mathlib.Data.List.Sort
import Mathlib.Tactic.SplitIfs

/-!
# The order of texts

Texts are ordered by their characters.  The bytes of the texts are in the same order: a character with
a larger code has a longer encoding with a larger first byte, or an equally long one with larger
digits.

Things that stand under names are put in the order of the names.  If the names differ, this order is
strict, and it does not matter in which order the things came.
-/

namespace RepoSurvey

/-! ## Bytes -/

/-- The bytes of a text. -/
def bytes (text : String) : List UInt8 := text.toUTF8.data.toList

theorem bytes_eq_flatMap (text : String) :
    bytes text = text.toList.flatMap String.utf8EncodeChar := by
  rw [← String.ofList_toList (s := text), bytes, String.toUTF8, String.toByteArray_ofList,
    List.utf8Encode, List.toList_data_toByteArray, String.toList_ofList]

private theorem digit_lt_of_lt {left right : Nat} (isLess : left < right) :
    left / 64 < right / 64 ∨ left / 64 = right / 64 ∧ left % 64 < right % 64 := by
  omega

/-- The encodings of two characters are in order, whatever follows them. -/
theorem lex_utf8EncodeChar_of_lt {left right : Char} (isLess : left < right)
    (afterLeft afterRight : List UInt8) :
    List.Lex (· < ·) (String.utf8EncodeChar left ++ afterLeft)
      (String.utf8EncodeChar right ++ afterRight) := by
  have bound : right.val.toNat < 0x110000 := by
    have := right.valid
    simp only [UInt32.isValidChar, Nat.isValidChar] at this
    omega
  have codes : left.val.toNat < right.val.toNat := isLess
  -- Where the encodings are equally long, their bytes are digits of the codes, base 64.
  have fourth := digit_lt_of_lt codes
  have third (h : left.val.toNat / 64 < right.val.toNat / 64) := digit_lt_of_lt h
  have second (h : left.val.toNat / 64 / 64 < right.val.toNat / 64 / 64) := digit_lt_of_lt h
  simp only [Nat.div_div_eq_div_mul, Nat.reduceMul] at second third
  have fits (code : Nat) (small : code < 0x110000) : code / 262144 % 8 = code / 262144 := by omega
  simp only [String.utf8EncodeChar]
  split_ifs <;>
    simp only [List.cons_append, List.nil_append, List.cons_lex_cons_iff, UInt8.lt_iff_toNat_lt,
      ← UInt8.toNat_inj, UInt8.toNat_ofNat', fits _ bound, fits _ (codes.trans bound)] <;>
    simp (disch := omega) only [Nat.mod_eq_of_lt] <;>
    omega

private theorem lex_flatMap_of_lex {left right : List Char}
    (isLess : List.Lex (· < ·) left right) :
    List.Lex (· < ·) (left.flatMap String.utf8EncodeChar)
      (right.flatMap String.utf8EncodeChar) := by
  induction isLess with
  | @nil character rest =>
      obtain ⟨byte, others, encoded⟩ :=
        List.exists_cons_of_ne_nil (String.utf8EncodeChar_ne_nil (c := character))
      simp only [List.flatMap_nil, List.flatMap_cons, encoded, List.cons_append]
      exact .nil
  | rel isLess =>
      simp only [List.flatMap_cons]
      exact lex_utf8EncodeChar_of_lt isLess _ _
  | cons _ ih =>
      simp only [List.flatMap_cons]
      exact ih.append_left _ _

/-- Texts in order have bytes in order. -/
theorem lex_bytes_of_lt {left right : String} (isLess : left < right) :
    List.Lex (· < ·) (bytes left) (bytes right) := by
  rw [bytes_eq_flatMap, bytes_eq_flatMap]
  exact lex_flatMap_of_lex isLess

/-! ## Names -/

section Names

variable {α β : Type}

/-- Puts what stands under names in the order of the names. -/
def sortByName (named : List (String × α)) : List (String × α) :=
  named.mergeSort fun left right => !decide (right.1 < left.1)

theorem sortByName_perm (named : List (String × α)) : (sortByName named).Perm named :=
  List.mergeSort_perm named _

theorem mem_sortByName {named : List (String × α)} {entry : String × α} :
    entry ∈ sortByName named ↔ entry ∈ named := List.mem_mergeSort

theorem sortByName_map (change : String → α → β) (named : List (String × α)) :
    sortByName (named.map fun entry => (entry.1, change entry.1 entry.2)) =
      (sortByName named).map fun entry => (entry.1, change entry.1 entry.2) :=
  (List.map_mergeSort (f := fun entry : String × α => (entry.1, change entry.1 entry.2))
    fun _ _ _ _ => rfl).symm

theorem sortByName_ordered (named : List (String × α)) :
    (sortByName named).Pairwise fun left right => ¬ right.1 < left.1 := by
  have sorted : (sortByName named).Pairwise fun left right => (!decide (right.1 < left.1)) = true :=
    List.pairwise_mergeSort
      (fun a b c => by
        simp only [Bool.not_eq_true', decide_eq_false_iff_not, String.not_lt]
        exact String.le_trans)
      (fun a b => by
        simp only [Bool.or_eq_true, Bool.not_eq_true', decide_eq_false_iff_not, String.not_lt]
        exact String.le_total _ _)
      named
  refine sorted.imp fun ordered => ?_
  simpa only [Bool.not_eq_true', decide_eq_false_iff_not] using ordered

/-- Of two different names in order the first one is less. -/
theorem lt_of_ordered {left right : String} (ordered : ¬ right < left) (differ : left ≠ right) :
    left < right :=
  String.not_le.1 fun reversed => differ (String.le_antisymm (String.not_lt.1 ordered) reversed)

/-- Different names come out in strict order. -/
theorem sortByName_increasing {named : List (String × α)} (distinct : (named.map Prod.fst).Nodup) :
    (sortByName named).Pairwise fun left right => left.1 < right.1 := by
  have different : (sortByName named).Pairwise fun left right => left.1 ≠ right.1 := by
    rw [← List.pairwise_map (f := Prod.fst) (R := (· ≠ ·))]
    exact ((sortByName_perm named).map Prod.fst).nodup_iff.2 distinct
  exact (sortByName_ordered named).imp₂ (fun _ _ => lt_of_ordered) different

/-- Things in strict order are determined by what they are. -/
theorem eq_of_increasing {named others : List (String × α)} (same : named.Perm others)
    (isIncreasing : named.Pairwise fun left right => left.1 < right.1)
    (areIncreasing : others.Pairwise fun left right => left.1 < right.1) : named = others :=
  List.Perm.eq_of_pairwise
    (fun _ _ _ _ isLess isGreater => absurd isGreater (String.lt_asymm isLess))
    isIncreasing areIncreasing same

end Names

end RepoSurvey
