import Mathlib.Data.List.Forall2
import Mathlib.Tactic.SplitIfs
import RepoSurvey.Proofs.Json.Grammar

/-!
# Both ways of writing give texts of the grammar

A document with exact integers as its only numbers is written as a text that stands for it, in one line
or with each part on a line of its own.
-/

namespace RepoSurvey.Json

/-- Whether a number is an integer that is kept exactly. -/
def Number.IsExact : Number → Prop
  | integer value => -2 ^ 63 ≤ value ∧ value < 2 ^ 64
  | double _ => False

namespace Ordered

mutual

/-- All numbers in a document are integers that are kept exactly. -/
def Exact : Ordered → Prop
  | number value => value.IsExact
  | array items => ItemsExact items
  | object members => MembersExact members
  | _ => True

def ItemsExact : List Ordered → Prop
  | [] => True
  | item :: rest => Exact item ∧ ItemsExact rest

def MembersExact : List (String × Ordered) → Prop
  | [] => True
  | (_, item) :: rest => Exact item ∧ MembersExact rest

end

end Ordered

/-! ## Texts in quotation marks -/

/-- One character and what it is written as, before the others. -/
theorem QuotedText.escapeChar {content text : List Char} (character : Char)
    (rest : QuotedText content text) :
    QuotedText (character :: content) ((Json.escapeChar character).toList ++ text) := by
  rw [Json.escapeChar]
  split_ifs with isQuote isBackslash isVisible isBreak isReturn isTab isBackspace isFeed
  · rw [beq_iff_eq] at isQuote
    subst isQuote
    exact .escape (by decide) rest
  · rw [beq_iff_eq] at isBackslash
    subst isBackslash
    exact .escape (by decide) rest
  · rw [Char.toString_eq_singleton, String.toList_singleton]
    refine .plain ?_ rest
    simp_all [isPlainChar]
  · rw [beq_iff_eq] at isBreak
    subst isBreak
    exact .escape (by decide) rest
  · rw [beq_iff_eq] at isReturn
    subst isReturn
    exact .escape (by decide) rest
  · rw [beq_iff_eq] at isTab
    subst isTab
    exact .escape (by decide) rest
  · obtain rfl : character = '\x08' := Char.toNat_inj.mp (beq_iff_eq.mp isBackspace)
    exact .escape (by decide) rest
  · obtain rfl : character = '\x0c' := Char.toNat_inj.mp (beq_iff_eq.mp isFeed)
    exact .escape (by decide) rest
  · have codes : ∀ number < 0x20, hexNumber
        ['0', '0', Nat.digitChar (number / 16), Nat.digitChar (number % 16)] = some number := by
      decide
    have isCode := codes character.toNat (Nat.lt_of_not_le isVisible)
    have written := QuotedText.code isCode rest
    simp only [String.toList_append, String.toList_ofList]
    exact written

theorem toList_foldl_escapeChar (characters : List Char) (start : String) :
    (characters.foldl (fun quoted character => quoted ++ escapeChar character) start).toList =
      start.toList ++ characters.flatMap fun character => (escapeChar character).toList := by
  induction characters generalizing start with
  | nil => simp
  | cons character rest ih =>
      rw [List.foldl_cons, ih, String.toList_append, List.flatMap_cons, List.append_assoc]

theorem QuotedText.flatMap_escapeChar (content : List Char) :
    QuotedText content (content.flatMap fun character => (Json.escapeChar character).toList) := by
  induction content with
  | nil => exact .nil
  | cons character rest ih => exact ih.escapeChar character

theorem QuotedText.of_all_plain {content : List Char}
    (arePlain : ∀ character ∈ content, isPlainChar character = true) :
    QuotedText content content := by
  induction content with
  | nil => exact .nil
  | cons character rest ih =>
      obtain ⟨isPlain, arePlain⟩ := List.forall_mem_cons.mp arePlain
      exact .plain isPlain (ih arePlain)

/-- A text in quotation marks stands for itself. -/
theorem quote_isQuoted (content : String) :
    ∃ text, QuotedText content.toList text ∧ (quote content).toList = '"' :: (text ++ ['"']) := by
  rw [quote]
  split
  · rename_i arePlain
    refine ⟨content.toList, QuotedText.of_all_plain (by simpa using arePlain), ?_⟩
    rw [String.toList_append, String.toList_append]
    rfl
  · refine ⟨_, QuotedText.flatMap_escapeChar content.toList, ?_⟩
    rw [String.toList_append, String.foldl_eq_foldl_toList, toList_foldl_escapeChar]
    rfl

/-! ## Numbers -/

theorem toDigits_head_ne_zero {number : Nat} (isPositive : 0 < number) :
    ∃ first digits, Nat.toDigits 10 number = first :: digits ∧ first ≠ '0' := by
  induction number using Nat.strongRecOn with
  | ind number ih =>
      rcases Nat.lt_or_ge number 10 with isDigit | isLong
      · have digits : ∀ digit < 10, 0 < digit → digit.digitChar ≠ '0' := by decide
        exact ⟨number.digitChar, [], Nat.toDigits_of_lt_base isDigit,
          digits number isDigit isPositive⟩
      · obtain ⟨first, digits, digits_eq, notZero⟩ := ih (number / 10) (by omega) (by omega)
        refine ⟨first, digits ++ [(number % 10).digitChar], ?_, notZero⟩
        rw [Nat.toDigits_of_base_le (by decide) isLong, digits_eq, List.cons_append]

/-- Digits of a positive number, as the grammar wants them. -/
theorem toDigits_areDigits {number : Nat} (isPositive : 0 < number) :
    ∃ first digits, Nat.toDigits 10 number = first :: digits ∧ first ≠ '0' ∧
      (∀ digit ∈ first :: digits, digit.isDigit) ∧
        Nat.ofDigitChars 10 (first :: digits) 0 = number := by
  obtain ⟨first, digits, digits_eq, notZero⟩ := toDigits_head_ne_zero isPositive
  refine ⟨first, digits, digits_eq, notZero, ?_, ?_⟩
  · rw [← digits_eq]
    exact fun digit isIn => Nat.isDigit_of_mem_toDigits (by decide) (by decide) isIn
  · rw [← digits_eq, Nat.ofDigitChars_ten_toDigits]

theorem integerText_toString {value : Int} (isExact : (Number.integer value).IsExact) :
    IntegerText value (toString value).toList := by
  obtain ⟨isLarge, isSmall⟩ := isExact
  cases value with
  | ofNat number =>
      rcases Nat.eq_zero_or_pos number with rfl | isPositive
      · exact .zero
      · obtain ⟨first, digits, digits_eq, notZero, areDigits, number_eq⟩ :=
          toDigits_areDigits isPositive
        have text_eq : (toString (Int.ofNat number)).toList = first :: digits := by
          rw [← digits_eq]
          exact Nat.toList_repr
        rw [text_eq, ← number_eq]
        refine .natural areDigits notZero ?_
        rw [number_eq]
        exact Int.ofNat_lt.mp isSmall
  | negSucc number =>
      obtain ⟨first, digits, digits_eq, notZero, areDigits, number_eq⟩ :=
        toDigits_areDigits (Nat.succ_pos number)
      have text_eq : (toString (Int.negSucc number)).toList = '-' :: first :: digits := by
        rw [← digits_eq, ← Nat.toList_repr]
        exact String.toList_append
      rw [text_eq, Int.negSucc_eq, ← Int.natCast_succ, ← number_eq]
      refine .negative areDigits notZero ?_
      rw [number_eq]
      omega

/-! ## Parts -/

/-- Texts that stand for documents stand for a list of them, with a comma and white space between
them. -/
theorem itemsText_intercalate {blanks : String} (areBlanks : Blanks blanks.toList)
    {after : List Char} (areBlanksAfter : Blanks after) {items : List Ordered} {texts : List String}
    (areTexts : List.Forall₂ (fun item text => ValueText item text.toList) items texts)
    (isSome : items ≠ []) {before : List Char} (areBlanksBefore : Blanks before) :
    ItemsText items (before ++ ((("," ++ blanks).intercalate texts).toList ++ after)) := by
  induction areTexts generalizing before with
  | nil => exact absurd rfl isSome
  | @cons item text items texts isText areTexts ih =>
      cases areTexts with
      | nil =>
          rw [String.intercalate_singleton]
          exact .last (.padded areBlanksBefore isText areBlanksAfter)
      | @cons second secondText items texts isSecond areTexts =>
          have others := ih (List.cons_ne_nil _ _) areBlanks
          have isFirst := PaddedText.padded areBlanksBefore isText
            (show Blanks [] from List.forall_mem_nil _)
          have whole := ItemsText.more isFirst others
          rw [String.intercalate_cons_cons, String.toList_append, String.toList_append,
            String.toList_append]
          simpa using whole

/-- What a member is written as. -/
def IsMemberText (member : String × Ordered) (text : String) : Prop :=
  ∃ blanks value, Blanks blanks.toList ∧ ValueText member.2 value.toList ∧
    text = quote member.1 ++ ":" ++ blanks ++ value

theorem membersText_intercalate {blanks : String} (areBlanks : Blanks blanks.toList)
    {after : List Char} (areBlanksAfter : Blanks after) {members : List (String × Ordered)}
    {texts : List String} (areTexts : List.Forall₂ IsMemberText members texts)
    (isSome : members ≠ []) {before : List Char} (areBlanksBefore : Blanks before) :
    MembersText members (before ++ ((("," ++ blanks).intercalate texts).toList ++ after)) := by
  induction areTexts generalizing before with
  | nil => exact absurd rfl isSome
  | @cons member text members texts isText areTexts ih =>
      obtain ⟨gap, value, isGap, isValue, rfl⟩ := isText
      obtain ⟨key, isQuoted, key_eq⟩ := quote_isQuoted member.1
      have noBlanks : Blanks [] := List.forall_mem_nil _
      have isKey := KeyText.key areBlanksBefore isQuoted noBlanks
      cases areTexts with
      | nil =>
          have whole := MembersText.last isKey (.padded isGap isValue areBlanksAfter)
          rw [String.intercalate_singleton]
          simpa [String.toList_append, key_eq] using whole
      | @cons second secondText members texts isSecond areTexts =>
          have others := ih (List.cons_ne_nil _ _) areBlanks
          have whole := MembersText.more isKey (.padded isGap isValue noBlanks) others
          rw [String.intercalate_cons_cons]
          simpa [String.toList_append, key_eq] using whole

/-! ## Documents -/

namespace Ordered

theorem blanks_lineBreak (depth : Nat) : Blanks (lineBreak depth).toList := by
  intro character isIn
  rw [lineBreak, String.toList_ofList, List.mem_cons] at isIn
  rcases isIn with rfl | isIn
  · decide
  · rw [List.eq_of_mem_replicate isIn]
    decide

/-- Two ways of writing a container, one of them with line breaks. -/
theorem bracketed_cons (opening closing : String) (depth : Nat) (part : String)
    (parts : List String) :
    (bracketed opening closing depth (part :: parts)).toList =
      opening.toList ++ ((lineBreak (depth + 1)).toList ++
        ((("," ++ lineBreak (depth + 1)).intercalate (part :: parts)).toList ++
          (lineBreak depth).toList) ++ closing.toList) := by
  rw [bracketed, if_neg (by simp)]
  simp only [String.toList_append, List.append_assoc]

mutual

/-- A document is written as texts that stand for it. -/
theorem isText : (document : Ordered) → document.Exact →
    ValueText document document.compact.toList ∧
      ∀ depth, ValueText document (document.pretty depth).toList
  | null, _ => by
      refine ⟨.null, fun depth => ?_⟩
      rw [pretty]
      exact .null
  | bool true, _ => by
      refine ⟨.true, fun depth => ?_⟩
      rw [pretty]
      exact .true
  | bool false, _ => by
      refine ⟨.false, fun depth => ?_⟩
      rw [pretty]
      exact .false
  | number (.integer value), isExact => by
      have written := ValueText.number (integerText_toString isExact)
      refine ⟨written, fun depth => ?_⟩
      rw [pretty]
      exact written
  | number (.double _), isExact => isExact.elim
  | string content, _ => by
      obtain ⟨text, isQuoted, text_eq⟩ := quote_isQuoted content
      have written : ValueText (string content) (quote content).toList := by
        rw [text_eq]
        exact .string isQuoted
      refine ⟨written, fun depth => ?_⟩
      rw [pretty]
      exact written
  | array [], _ => by
      have written : ValueText (array []) ['[', ']'] := .emptyArray (List.forall_mem_nil _)
      refine ⟨written, fun depth => ?_⟩
      rw [pretty, prettyItems, bracketed, List.isEmpty_nil, if_pos rfl]
      exact written
  | array (item :: rest), areExact => by
      obtain ⟨areCompact, arePretty⟩ := areTexts (item :: rest) areExact
      refine ⟨?_, fun depth => ?_⟩
      · have noBlanks : Blanks "".toList := List.forall_mem_nil _
        have written := ValueText.array
          (itemsText_intercalate noBlanks noBlanks areCompact (List.cons_ne_nil _ _) noBlanks)
        rw [compact, String.toList_append, String.toList_append]
        simpa using written
      · have written := ValueText.array (itemsText_intercalate (blanks_lineBreak (depth + 1))
          (blanks_lineBreak depth) (arePretty (depth + 1)) (List.cons_ne_nil _ _)
          (blanks_lineBreak (depth + 1)))
        rw [pretty, prettyItems, bracketed_cons]
        exact written
  | object [], _ => by
      have written : ValueText (object []) ['\x7b', '\x7d'] :=
        .emptyObject (List.forall_mem_nil _)
      refine ⟨written, fun depth => ?_⟩
      rw [pretty, prettyMembers, bracketed, List.isEmpty_nil, if_pos rfl]
      exact written
  | object (member :: rest), areExact => by
      obtain ⟨areCompact, arePretty⟩ := areMemberTexts (member :: rest) areExact
      refine ⟨?_, fun depth => ?_⟩
      · have noBlanks : Blanks "".toList := List.forall_mem_nil _
        have written := ValueText.object
          (membersText_intercalate noBlanks noBlanks areCompact (List.cons_ne_nil _ _) noBlanks)
        rw [compact, String.toList_append, String.toList_append]
        simpa using written
      · have written := ValueText.object (membersText_intercalate (blanks_lineBreak (depth + 1))
          (blanks_lineBreak depth) (arePretty (depth + 1)) (List.cons_ne_nil _ _)
          (blanks_lineBreak (depth + 1)))
        rw [pretty, prettyMembers, bracketed_cons]
        exact written

theorem areTexts : (items : List Ordered) → ItemsExact items →
    List.Forall₂ (fun item text => ValueText item text.toList) items (compactItems items) ∧
      ∀ depth, List.Forall₂ (fun item text => ValueText item text.toList) items
        (prettyItems depth items)
  | [], _ => by
      refine ⟨.nil, fun depth => ?_⟩
      rw [prettyItems]
      exact .nil
  | item :: rest, ⟨isExact, areExact⟩ => by
      obtain ⟨isCompact, isPretty⟩ := isText item isExact
      obtain ⟨areCompact, arePretty⟩ := areTexts rest areExact
      refine ⟨.cons isCompact areCompact, fun depth => ?_⟩
      rw [prettyItems]
      exact .cons (isPretty depth) (arePretty depth)

theorem areMemberTexts : (members : List (String × Ordered)) → MembersExact members →
    List.Forall₂ IsMemberText members (compactMembers members) ∧
      ∀ depth, List.Forall₂ IsMemberText members (prettyMembers depth members)
  | [], _ => by
      refine ⟨.nil, fun depth => ?_⟩
      rw [prettyMembers]
      exact .nil
  | (key, item) :: rest, ⟨isExact, areExact⟩ => by
      obtain ⟨isCompact, isPretty⟩ := isText item isExact
      obtain ⟨areCompact, arePretty⟩ := areMemberTexts rest areExact
      constructor
      · refine .cons ⟨"", _, List.forall_mem_nil _, isCompact, ?_⟩ areCompact
        rw [String.append_empty]
      · intro depth
        rw [prettyMembers]
        have isBlanks : Blanks " ".toList := List.forall_mem_singleton.mpr rfl
        refine .cons ⟨" ", _, isBlanks, isPretty depth, ?_⟩ (arePretty depth)
        simp only [String.append_assoc]
        rfl

end

end Ordered

end RepoSurvey.Json
