import RepoSurvey.Proofs.Json.Grammar
import RepoSurvey.Proofs.Json.Reading

/-!
# Every text of the grammar is read

The reader takes one character at a time and keeps its open containers in a list.  On a text of the
grammar it comes to its end without a fault, with the document that the text stands for.
-/

namespace RepoSurvey.Json

/-- The place after some characters. -/
def Spot.afterAll (spot : Spot) (text : List Char) : Spot := text.foldl Spot.after spot

@[simp] theorem Spot.afterAll_nil (spot : Spot) : spot.afterAll [] = spot := rfl

@[simp] theorem Spot.afterAll_cons (spot : Spot) (character : Char) (rest : List Char) :
    spot.afterAll (character :: rest) = (spot.after character).afterAll rest := rfl

@[simp] theorem Spot.afterAll_append (spot : Spot) (first second : List Char) :
    spot.afterAll (first ++ second) = (spot.afterAll first).afterAll second :=
  List.foldl_append

theorem Spot.afterAll_enclosed (spot : Spot) (opening closing : Char) (text : List Char) :
    spot.afterAll (opening :: (text ++ [closing])) =
      ((spot.after opening).afterAll text).after closing := by
  rw [afterAll_cons, afterAll_append]
  rfl

namespace Reader

variable {frames : List Frame} {spot : Spot} {rest : List Char}

theorem run_of_step {reader next : Reader} {character : Char}
    (stepped : reader.step spot character = .ok next) :
    run reader spot (character :: rest) = run next (spot.after character) rest := by
  rw [run, stepped]

/-! ## Between values -/

/-- The phases in which white space may stand. -/
def IsBetween : Phase → Prop
  | .word .. | .text _ | .number _ => False
  | _ => True

theorem step_between {reader : Reader} {character : Char} (isBetween : IsBetween reader.phase) :
    reader.step spot character = reader.stepBetween spot character := by
  obtain ⟨phase, frames⟩ := reader
  cases phase <;> first | rfl | exact isBetween.elim

theorem isBetween_give (frames : List Frame) (located : Located) :
    IsBetween (give frames located).phase := by
  cases frames with
  | nil => trivial
  | cons frame outer => cases frame <;> trivial

theorem run_blanks {reader : Reader} {blanks : List Char} (isBetween : IsBetween reader.phase)
    (areBlanks : Blanks blanks) :
    run reader spot (blanks ++ rest) = run reader (spot.afterAll blanks) rest := by
  induction blanks generalizing spot with
  | nil => rfl
  | cons blank blanks ih =>
      obtain ⟨isBlank, areBlanks⟩ := List.forall_mem_cons.mp areBlanks
      have stays : reader.step spot blank = .ok reader := by
        rw [step_between isBetween, stepBetween, if_pos isBlank]
      rw [List.cons_append, run_of_step stays, ih areBlanks, Spot.afterAll_cons]

/-- The phases in which a value may start. -/
inductive MayBegin : Phase → Prop
  | value : MayBegin .value
  | firstItem : MayBegin .firstItem
  | nextItem : MayBegin .nextItem

theorem MayBegin.isBetween {phase : Phase} (mayBegin : MayBegin phase) : IsBetween phase := by
  cases mayBegin <;> trivial

theorem step_begin {phase : Phase} {character : Char} (mayBegin : MayBegin phase)
    (notBlank : isBlank character = false) (notClosing : character ≠ ']') :
    step ⟨phase, frames⟩ spot character = begin frames spot character := by
  rw [step_between mayBegin.isBetween, stepBetween, notBlank]
  cases mayBegin <;> simp [notClosing]

theorem run_of_begin {phase : Phase} {character : Char} {next : Reader} (mayBegin : MayBegin phase)
    (notBlank : isBlank character = false) (notClosing : character ≠ ']')
    (begins : begin frames spot character = .ok next) :
    run ⟨phase, frames⟩ spot (character :: rest) = run next (spot.after character) rest :=
  run_of_step ((step_begin mayBegin notBlank notClosing).trans begins)

/-! ## Words -/

theorem run_word (leaf : Leaf) (start : Spot) (first : Char) (word : List Char) :
    run ⟨.word start (first :: word) leaf, frames⟩ spot (first :: word ++ rest) =
      run (give frames (.leaf leaf start (spot.afterAll (first :: word))))
        (spot.afterAll (first :: word)) rest := by
  induction word generalizing first spot with
  | nil =>
      refine run_of_step ?_
      rw [step]
      simp
  | cons second word ih =>
      have goesOn : step ⟨.word start (first :: second :: word) leaf, frames⟩ spot first =
          .ok ⟨.word start (second :: word) leaf, frames⟩ := by
        rw [step]
        simp
      rw [List.cons_append, run_of_step goesOn, ih, ← Spot.afterAll_cons]

/-! ## Texts in quotation marks -/

theorem unescape_of_mem {letter meant : Char} (isEscape : (letter, meant) ∈ escapes) :
    letter ≠ 'u' ∧ TextProgress.unescape letter = some meant := by
  simp only [escapes, List.mem_cons, Prod.mk.injEq, List.not_mem_nil, or_false] at isEscape
  rcases isEscape with
    ⟨rfl, rfl⟩ | ⟨rfl, rfl⟩ | ⟨rfl, rfl⟩ | ⟨rfl, rfl⟩ | ⟨rfl, rfl⟩ | ⟨rfl, rfl⟩ | ⟨rfl, rfl⟩ |
      ⟨rfl, rfl⟩ <;> decide

theorem utf8Size_of_hexValue {character : Char} {value : Nat}
    (isDigit : TextProgress.hexValue character = some value) : character.utf8Size = 1 := by
  have isSmall : character.val ≤ 0x7f := by
    rw [TextProgress.hexValue] at isDigit
    split at isDigit
    · rename_i decimal
      simp only [Char.isDigit, Bool.and_eq_true, decide_eq_true_eq] at decimal
      exact UInt32.le_trans decimal.2 (by decide)
    · split at isDigit
      · rename_i small
        simp only [Bool.and_eq_true, decide_eq_true_eq] at small
        exact UInt32.le_trans small.2 (by decide)
      · split at isDigit
        · rename_i large
          simp only [Bool.and_eq_true, decide_eq_true_eq] at large
          exact UInt32.le_trans large.2 (by decide)
        · cases isDigit
  exact if_pos isSmall

/-- A character is no half of a pair, so four digits stand for it alone. -/
theorem finishHex_of_char (progress : TextProgress) (meant : Char) :
    progress.finishHex meant.toNat none spot = progress.push meant := by
  have noHalf := meant.valid
  simp only [UInt32.isValidChar, Nat.isValidChar] at noHalf
  have number_eq : meant.toNat = meant.val.toNat := rfl
  have notTrailing : ¬(0xDC00 ≤ meant.toNat ∧ meant.toNat ≤ 0xDFFF) := by omega
  have notLeading : ¬(0xD800 ≤ meant.toNat ∧ meant.toNat ≤ 0xDBFF) := by omega
  simp only [TextProgress.finishHex, Bool.and_eq_true, decide_eq_true_eq, notTrailing, if_false,
    notLeading, Char.ofNat_toNat]

theorem run_text_step {progress next : TextProgress} {character : Char}
    (stepped : progress.step spot character = .ok (some next)) :
    run ⟨.text progress, frames⟩ spot (character :: rest) =
      run ⟨.text next, frames⟩ (spot.after character) rest := by
  refine run_of_step ?_
  rw [step]
  dsimp only
  rw [stepped]

/-- Digits of base sixteen stand for the character with their number. -/
theorem run_hex (progress : TextProgress) (digits : List Char) {value : Nat} {meant : Char}
    (notOver : digits ≠ [])
    (isCode : digits.foldlM
      (fun number digit => (TextProgress.hexValue digit).map (number * 16 + ·)) value =
        some meant.toNat) :
    run ⟨.text { progress with phase := .hex digits.length value true none }, frames⟩ spot
        (digits ++ rest) =
      run ⟨.text (progress.push meant), frames⟩ (spot.afterAll digits) rest := by
  induction digits generalizing value spot with
  | nil => exact absurd rfl notOver
  | cons digit digits ih =>
      rw [List.foldlM_cons, Option.bind_eq_bind, Option.bind_eq_some_iff] at isCode
      obtain ⟨longer, isLonger, isCode⟩ := isCode
      obtain ⟨number, isDigit, rfl⟩ := Option.map_eq_some_iff.mp isLonger
      have width := utf8Size_of_hexValue isDigit
      rw [List.cons_append, Spot.afterAll_cons]
      cases digits with
      | nil =>
          refine run_text_step ?_
          have isMeant : value * 16 + number = meant.toNat := Option.some.inj isCode
          simp [TextProgress.step, TextProgress.stepHex, isDigit, width, isMeant,
            finishHex_of_char, Except.map, TextProgress.push]
      | cons second digits =>
          rw [← ih (by simp) isCode]
          refine run_text_step ?_
          simp [TextProgress.step, TextProgress.stepHex, isDigit, width, Except.map]

theorem push_append_ofList (read : String) (character : Char) (content : List Char) :
    read.push character ++ String.ofList content = read ++ String.ofList (character :: content) := by
  rw [String.ofList_cons, ← String.append_assoc, String.append_singleton]

/-- What stands between quotation marks is read as the text that it stands for. -/
theorem run_quoted {content text : List Char} (isQuoted : QuotedText content text) (isKey : Bool)
    (start : Spot) (read : String) :
    run ⟨.text ⟨isKey, start, read, .plain, none⟩, frames⟩ spot (text ++ rest) =
      run ⟨.text ⟨isKey, start, read ++ String.ofList content, .plain, none⟩, frames⟩
        (spot.afterAll text) rest := by
  induction isQuoted generalizing read spot with
  | nil => rw [String.ofList_nil, String.append_empty]; rfl
  | @plain character content text isPlain _ ih =>
      simp only [isPlainChar, Bool.and_eq_true, decide_eq_true_eq, bne_iff_ne] at isPlain
      obtain ⟨⟨isVisible, notQuote⟩, notBackslash⟩ := isPlain
      have takes : TextProgress.step ⟨isKey, start, read, .plain, none⟩ spot character =
          .ok (some ⟨isKey, start, read.push character, .plain, none⟩) := by
        simp [TextProgress.step, notQuote, notBackslash, Nat.not_lt.mpr isVisible,
          TextProgress.push]
      rw [List.cons_append, run_text_step takes, ih, push_append_ofList, Spot.afterAll_cons]
  | @escape letter meant content text isEscape _ ih =>
      obtain ⟨notCode, isMeant⟩ := unescape_of_mem isEscape
      have takes : TextProgress.step ⟨isKey, start, read, .escape, none⟩ (spot.after '\\') letter =
          .ok (some ⟨isKey, start, read.push meant, .plain, none⟩) := by
        simp [TextProgress.step, notCode, isMeant, TextProgress.push]
      rw [List.cons_append, run_text_step rfl, List.cons_append, run_text_step takes, ih,
        push_append_ofList, Spot.afterAll_cons, Spot.afterAll_cons]
  | @code first second third fourth meant content text isCode _ ih =>
      rw [List.cons_append, run_text_step rfl, List.cons_append, run_text_step rfl]
      refine (run_hex ⟨isKey, start, read, .escape, none⟩ [first, second, third, fourth] (by simp)
        isCode).trans ?_
      exact (ih (read.push meant)).trans (by rw [push_append_ofList]; rfl)

/-- A text in quotation marks that is no key. -/
theorem run_string {content : String} {text : List Char}
    (isQuoted : QuotedText content.toList text) :
    run ⟨.text { isKey := false, start := spot }, frames⟩ (spot.after '"') (text ++ '"' :: rest) =
      run (give frames (.leaf (.string (.ok content)) spot (spot.afterAll ('"' :: (text ++ ['"'])))))
        (spot.afterAll ('"' :: (text ++ ['"']))) rest := by
  rw [run_quoted isQuoted, String.empty_append, String.ofList_toList, Spot.afterAll_enclosed]
  exact run_of_step rfl

/-! ## Numbers -/

/-- What may stand after a value in the innermost container. -/
def Follows (frames : List Frame) : List Char → Prop
  | [] => True
  | character :: _ =>
      isBlank character ∨
        match frames with
        | [] => False
        | .array .. :: _ => character = ',' ∨ character = ']'
        | .object .. :: _ => character = ',' ∨ character = '\x7d'

theorem Follows.blanks_append {blanks : List Char} (areBlanks : Blanks blanks)
    (follows : Follows frames rest) : Follows frames (blanks ++ rest) := by
  cases blanks with
  | nil => exact follows
  | cons blank blanks => exact Or.inl (areBlanks blank List.mem_cons_self)

theorem Follows.ends_number {character : Char} (follows : Follows frames (character :: rest)) :
    character.isDigit = false ∧ character ≠ '.' ∧ character ≠ 'e' ∧ character ≠ 'E' := by
  rcases follows with isBlank | isMark
  · simp only [RepoSurvey.Json.isBlank, Bool.or_eq_true, beq_iff_eq] at isBlank
    rcases isBlank with ((rfl | rfl) | rfl) | rfl <;> decide
  · cases frames with
    | nil => exact isMark.elim
    | cons frame outer =>
        cases frame with
        | array => rcases isMark with rfl | rfl <;> decide
        | object => rcases isMark with rfl | rfl <;> decide

theorem Follows.stepBetween_give {character : Char} (follows : Follows frames (character :: rest))
    (spot : Spot) (located : Located) :
    ∃ next, stepBetween (give frames located) spot character = .ok next := by
  by_cases blank : isBlank character = true
  · exact ⟨_, by rw [stepBetween, if_pos blank]⟩
  · rcases follows with isBlank | isMark
    · exact absurd isBlank blank
    · cases frames with
      | nil => exact isMark.elim
      | cons frame outer =>
          cases frame with
          | array => rcases isMark with rfl | rfl <;> exact ⟨_, rfl⟩
          | object => rcases isMark with rfl | rfl <;> exact ⟨_, rfl⟩

/-- A number that may be over is given to its container by whatever follows it. -/
theorem run_number_over {progress : NumberProgress}
    (mayEnd : progress.phase = .zero ∨ progress.phase = .digits) (follows : Follows frames rest) :
    run ⟨.number progress, frames⟩ spot rest =
      run (give frames (.leaf (.number (progress.finish spot)) progress.start spot)) spot rest := by
  cases rest with
  | nil =>
      have canEnd : progress.canEnd = true := by
        rcases mayEnd with isZero | areDigits
        · rw [NumberProgress.canEnd, isZero]
          rfl
        · rw [NumberProgress.canEnd, areDigits]
          rfl
      rw [run, run, finish]
      dsimp only
      rw [if_pos canEnd]
      cases frames with
      | nil => rfl
      | cons frame outer => cases frame <;> rfl
  | cons character rest =>
      obtain ⟨notDigit, notPoint, notSmall, notLarge⟩ := follows.ends_number
      have isOver : progress.step spot character = .over := by
        rcases mayEnd with isZero | areDigits
        · simp [NumberProgress.step, isZero, notDigit, notPoint, notSmall, notLarge]
        · simp [NumberProgress.step, areDigits, notDigit, notPoint, notSmall, notLarge]
      obtain ⟨next, goesOn⟩ := follows.stepBetween_give spot
        (.leaf (.number (progress.finish spot)) progress.start spot)
      have fromNumber : step ⟨.number progress, frames⟩ spot character = .ok next := by
        rw [← goesOn, step]
        dsimp only
        rw [isOver]
      rw [run_of_step fromNumber,
        run_of_step ((step_between (isBetween_give frames _)).trans goesOn)]

/-- More digits never make a number smaller. -/
theorem le_ofDigitChars (digits : List Char) (value : Nat) :
    value ≤ Nat.ofDigitChars 10 digits value := by
  induction digits generalizing value with
  | nil => exact Nat.le_refl value
  | cons digit digits ih =>
      rw [Nat.ofDigitChars_cons]
      exact Nat.le_trans (by omega) (ih _)

theorem run_digits {progress : NumberProgress} {digits : List Char}
    (areDigits : ∀ digit ∈ digits, digit.isDigit) (isPhase : progress.phase = .digits)
    (isExact : Nat.ofDigitChars 10 digits progress.significand ≤ largestInteger) :
    run ⟨.number progress, frames⟩ spot (digits ++ rest) =
      run ⟨.number
          { progress with significand := Nat.ofDigitChars 10 digits progress.significand }, frames⟩
        (spot.afterAll digits) rest := by
  induction digits generalizing progress spot with
  | nil => rfl
  | cons digit digits ih =>
      obtain ⟨isDigit, areDigits⟩ := List.forall_mem_cons.mp areDigits
      rw [Nat.ofDigitChars_cons, Nat.mul_comm] at isExact
      have fits := Nat.le_trans (le_ofDigitChars digits _) isExact
      let next : NumberProgress :=
        { progress with significand := progress.significand * 10 + (digit.toNat - '0'.toNat) }
      have takes : step ⟨.number progress, frames⟩ spot digit = .ok ⟨.number next, frames⟩ := by
        have isMore : progress.step spot digit = .more next := by
          rw [NumberProgress.step, isPhase]
          dsimp only
          rw [if_pos isDigit, if_pos fits]
          simp [next, isPhase]
        rw [step]
        dsimp only
        rw [isMore]
      refine (run_of_step takes).trans ((@ih _ next areDigits isPhase isExact).trans ?_)
      rw [Nat.ofDigitChars_cons, Nat.mul_comm 10, Spot.afterAll_cons]

theorem ne_of_isDigit {character mark : Char} (isDigit : character.isDigit)
    (noDigit : mark.isDigit = false) : character ≠ mark := by
  rintro rfl
  rw [isDigit] at noDigit
  cases noDigit

theorem isBlank_of_isDigit {character : Char} (isDigit : character.isDigit) :
    isBlank character = false := by
  simp [isBlank, ne_of_isDigit isDigit]

theorem begin_digit {first : Char} (isDigit : first.isDigit) (notZero : first ≠ '0') :
    begin frames spot first =
      .ok ⟨.number
        { start := spot, isNegative := false, phase := .digits
          significand := first.toNat - '0'.toNat }, frames⟩ := by
  rw [begin]
  simp [ne_of_isDigit isDigit, notZero, isDigit]

theorem digit_pos {first : Char} (isDigit : first.isDigit) (notZero : first ≠ '0') :
    0 < first.toNat - '0'.toNat := by
  have isLarge : '0'.toNat ≤ first.toNat := by
    simp only [Char.isDigit, Bool.and_eq_true, decide_eq_true_eq] at isDigit
    exact isDigit.1
  have differs : first.toNat ≠ '0'.toNat := fun same => notZero (Char.toNat_inj.mp same)
  omega

theorem finish_negative {start : Spot} {significand : Nat} (isPositive : 0 < significand)
    (isExact : significand ≤ 2 ^ 63) :
    NumberProgress.finish { start, isNegative := true, phase := .digits, significand } spot =
      .ok (.integer (-significand)) := by
  have isKept : ¬Nat.pow 2 63 < significand := Nat.not_lt.mpr isExact
  rw [NumberProgress.finish]
  simp [Nat.ne_of_gt isPositive, isKept]

/-- Integers that are kept exactly are read as they are written. -/
theorem run_integer {phase : Phase} {value : Int} {text : List Char}
    (isInteger : IntegerText value text) (mayBegin : MayBegin phase)
    (follows : Follows frames rest) :
    run ⟨phase, frames⟩ spot (text ++ rest) =
      run (give frames (.leaf (.number (.ok (.integer value))) spot (spot.afterAll text)))
        (spot.afterAll text) rest := by
  cases isInteger with
  | zero =>
      rw [List.singleton_append,
        run_of_begin mayBegin (by decide) (by decide) rfl,
        run_number_over (Or.inl rfl) follows]
      rfl
  | @natural first digits areDigits notZero isExact =>
      obtain ⟨isDigit, areDigits⟩ := List.forall_mem_cons.mp areDigits
      rw [Nat.ofDigitChars_cons, Nat.mul_zero, Nat.zero_add] at isExact ⊢
      rw [List.cons_append, run_of_begin mayBegin (isBlank_of_isDigit isDigit)
          (ne_of_isDigit isDigit (by decide)) (begin_digit isDigit notZero),
        run_digits areDigits rfl (Nat.le_sub_one_of_lt isExact), run_number_over (Or.inr rfl) follows]
      rfl
  | @negative first digits areDigits notZero isExact =>
      obtain ⟨isDigit, areDigits⟩ := List.forall_mem_cons.mp areDigits
      rw [Nat.ofDigitChars_cons, Nat.mul_zero, Nat.zero_add] at isExact ⊢
      have isPositive := Nat.lt_of_lt_of_le (digit_pos isDigit notZero) (le_ofDigitChars digits _)
      let signed : NumberProgress :=
        { start := spot, isNegative := true, phase := .digits
          significand := first.toNat - '0'.toNat }
      have takes : step ⟨.number { start := spot, isNegative := true, phase := .sign }, frames⟩
          (spot.after '-') first = .ok ⟨.number signed, frames⟩ := by
        rw [step]
        simp [NumberProgress.step, notZero, isDigit, signed]
      have fits : Nat.ofDigitChars 10 digits (first.toNat - '0'.toNat) ≤ largestInteger :=
        Nat.le_trans isExact (by decide)
      rw [List.cons_append, run_of_begin mayBegin (by decide) (by decide) rfl,
        List.cons_append, run_of_step takes, run_digits areDigits rfl fits,
        run_number_over (Or.inr rfl) follows, finish_negative isPositive isExact]
      rfl

/-! ## Documents -/

/-- A key and the colon after it. -/
theorem run_key {phase : Phase} (awaitsKey : phase = .firstKey ∨ phase = .nextKey) (start : Spot)
    (members : List (LocatedKey × Option Located)) (outer : List Frame) (spot : Spot)
    (rest : List Char) {key : String} {text : List Char} (isKey : KeyText key text) :
    ∃ located : LocatedKey, located.text = .ok key ∧
      run ⟨phase, .object start members none :: outer⟩ spot (text ++ rest) =
        run ⟨.value, .object start members (some located) :: outer⟩ (spot.afterAll text) rest := by
  obtain @⟨before, text, after, blanksBefore, isQuoted, blanksAfter⟩ := isKey
  let opening := spot.afterAll before
  let stop := ((opening.after '"').afterAll text).after '"'
  have isBetween : IsBetween phase := by rcases awaitsKey with rfl | rfl <;> trivial
  have opens : step ⟨phase, .object start members none :: outer⟩ opening '"' =
      .ok ⟨.text { isKey := true, start := opening }, .object start members none :: outer⟩ := by
    rcases awaitsKey with rfl | rfl <;> rfl
  have closes : step ⟨.text ⟨true, opening, key, .plain, none⟩,
      .object start members none :: outer⟩ ((opening.after '"').afterAll text) '"' =
        .ok ⟨.colon (.ok key) stop, .object start members none :: outer⟩ := rfl
  refine ⟨⟨.ok key, stop, stop.afterAll after⟩, rfl, ?_⟩
  rw [List.append_assoc, run_blanks isBetween blanksBefore, List.cons_append, run_of_step opens,
    List.append_assoc, run_quoted isQuoted, String.empty_append, String.ofList_toList,
    List.cons_append, run_of_step closes, List.append_assoc, run_blanks (by trivial) blanksAfter,
    List.singleton_append, run_of_step rfl, Spot.afterAll_append, Spot.afterAll_cons,
    Spot.afterAll_append, Spot.afterAll_cons, Spot.afterAll_append]
  rfl

mutual

/-- The text of a value is read as the value, whatever is open and whatever may follow it. -/
theorem run_value {phase : Phase} (mayBegin : MayBegin phase) (frames : List Frame) (spot : Spot)
    (rest : List Char) :
    {value : Ordered} → {text : List Char} → ValueText value text → Follows frames rest →
      ∃ located : Located, located.Shows value ∧
        run ⟨phase, frames⟩ spot (text ++ rest) =
          run (give frames located) (spot.afterAll text) rest
  | _, _, .null, _ => by
      refine ⟨.leaf .null spot (spot.afterAll ['n', 'u', 'l', 'l']), .null _ _, ?_⟩
      rw [List.cons_append, run_of_begin mayBegin (by decide) (by decide) rfl]
      exact run_word .null spot 'u' ['l', 'l']
  | _, _, .true, _ => by
      refine ⟨.leaf (.bool true) spot (spot.afterAll ['t', 'r', 'u', 'e']), .bool _ _ _, ?_⟩
      rw [List.cons_append, run_of_begin mayBegin (by decide) (by decide) rfl]
      exact run_word (.bool true) spot 'r' ['u', 'e']
  | _, _, .false, _ => by
      refine ⟨.leaf (.bool false) spot (spot.afterAll ['f', 'a', 'l', 's', 'e']), .bool _ _ _, ?_⟩
      rw [List.cons_append, run_of_begin mayBegin (by decide) (by decide) rfl]
      exact run_word (.bool false) spot 'a' ['l', 's', 'e']
  -- A number does not tell where it ends: this is where what follows it counts.
  | _, _, .number isInteger, follows =>
      ⟨_, .number _ _ _, run_integer isInteger mayBegin follows⟩
  | _, _, @ValueText.string content text isQuoted, _ => by
      let stop := spot.afterAll ('"' :: (text ++ ['"']))
      refine ⟨.leaf (.string (.ok content)) spot stop, .string _ _ _, ?_⟩
      rw [List.cons_append, run_of_begin mayBegin (by decide) (by decide) rfl, List.append_assoc,
        List.singleton_append]
      exact run_string isQuoted
  | _, _, @ValueText.emptyArray blanks areBlanks, _ => by
      let stop := ((spot.after '[').afterAll blanks).after ']'
      refine ⟨.array spot [] (.closed stop), .array _ _ .nil, ?_⟩
      rw [List.cons_append, run_of_begin mayBegin (by decide) (by decide) rfl, List.append_assoc,
        run_blanks (by trivial) areBlanks, List.singleton_append, Spot.afterAll_enclosed]
      exact run_of_step rfl
  | _, _, @ValueText.array items text areItems, _ => by
      let stop := ((spot.after '[').afterAll text).after ']'
      obtain ⟨located, areRead, itemsRun⟩ :=
        run_items .firstItem spot [] frames (spot.after '[') rest areItems
      refine ⟨.array spot located (.closed stop), .array _ _ areRead, ?_⟩
      rw [List.cons_append, run_of_begin mayBegin (by decide) (by decide) rfl, List.append_assoc,
        List.singleton_append, itemsRun, List.append_nil, Spot.afterAll_enclosed,
        run_of_step rfl, close, List.reverse_reverse]
  | _, _, @ValueText.emptyObject blanks areBlanks, _ => by
      let stop := ((spot.after '\x7b').afterAll blanks).after '\x7d'
      refine ⟨.object spot [] (.closed stop), .object _ _ .nil, ?_⟩
      rw [List.cons_append, run_of_begin mayBegin (by decide) (by decide) rfl, List.append_assoc,
        run_blanks (by trivial) areBlanks, List.singleton_append, Spot.afterAll_enclosed]
      exact run_of_step rfl
  | _, _, @ValueText.object members text areMembers, _ => by
      let stop := ((spot.after '\x7b').afterAll text).after '\x7d'
      obtain ⟨located, areRead, membersRun⟩ :=
        run_members (Or.inl rfl) spot [] frames (spot.after '\x7b') rest areMembers
      refine ⟨.object spot located (.closed stop), .object _ _ areRead, ?_⟩
      rw [List.cons_append, run_of_begin mayBegin (by decide) (by decide) rfl, List.append_assoc,
        List.singleton_append, membersRun, List.append_nil, Spot.afterAll_enclosed,
        run_of_step rfl, close, List.reverse_reverse]

theorem run_padded {phase : Phase} (mayBegin : MayBegin phase) (frames : List Frame) (spot : Spot)
    (rest : List Char) :
    {value : Ordered} → {text : List Char} → PaddedText value text → Follows frames rest →
      ∃ located : Located, located.Shows value ∧
        run ⟨phase, frames⟩ spot (text ++ rest) =
          run (give frames located) (spot.afterAll text) rest
  | _, _, @PaddedText.padded value before text after blanksBefore isValue blanksAfter, follows => by
      obtain ⟨located, isRead, valueRun⟩ := run_value mayBegin frames (spot.afterAll before)
        (after ++ rest) isValue (follows.blanks_append blanksAfter)
      refine ⟨located, isRead, ?_⟩
      rw [List.append_assoc, run_blanks mayBegin.isBetween blanksBefore, List.append_assoc, valueRun,
        run_blanks (isBetween_give frames located) blanksAfter, Spot.afterAll_append,
        Spot.afterAll_append]

theorem run_items {phase : Phase} (mayBegin : MayBegin phase) (start : Spot) (done : List Located)
    (outer : List Frame) (spot : Spot) (rest : List Char) :
    {items : List Ordered} → {text : List Char} → ItemsText items text →
      ∃ located : List Located, Located.ItemsShow located items ∧
        run ⟨phase, .array start done :: outer⟩ spot (text ++ ']' :: rest) =
          run ⟨.afterItem, .array start (located.reverse ++ done) :: outer⟩ (spot.afterAll text)
            (']' :: rest)
  | _, _, .last isItem => by
      obtain ⟨located, isRead, itemRun⟩ := run_padded mayBegin (.array start done :: outer) spot
        (']' :: rest) isItem (Or.inr (Or.inr rfl))
      exact ⟨[located], .cons isRead .nil, itemRun⟩
  | _, _, @ItemsText.more item items text others isItem areItems => by
      obtain ⟨first, isRead, itemRun⟩ := run_padded mayBegin (.array start done :: outer) spot
        (',' :: (others ++ ']' :: rest)) isItem (Or.inr (Or.inl rfl))
      obtain ⟨located, areRead, itemsRun⟩ := run_items .nextItem start (first :: done) outer
        ((spot.afterAll text).after ',') rest areItems
      refine ⟨first :: located, .cons isRead areRead, ?_⟩
      rw [List.append_assoc, List.cons_append, itemRun, run_of_step rfl]
      refine itemsRun.trans ?_
      rw [Spot.afterAll_append, Spot.afterAll_cons, List.reverse_cons, List.append_assoc,
        List.singleton_append]

theorem run_members {phase : Phase} (awaitsKey : phase = .firstKey ∨ phase = .nextKey) (start : Spot)
    (done : List (LocatedKey × Option Located)) (outer : List Frame) (spot : Spot)
    (rest : List Char) :
    {members : List (String × Ordered)} → {text : List Char} → MembersText members text →
      ∃ located : List (LocatedKey × Option Located),
        Located.MembersShow located members ∧
          run ⟨phase, .object start done none :: outer⟩ spot (text ++ '\x7d' :: rest) =
            run ⟨.afterMember, .object start (located.reverse ++ done) none :: outer⟩
              (spot.afterAll text) ('\x7d' :: rest)
  | _, _, @MembersText.last key item keyText text isKey isItem => by
      obtain ⟨locatedKey, keyRead, keyRun⟩ := run_key awaitsKey start done outer spot
        (text ++ '\x7d' :: rest) isKey
      obtain ⟨located, isRead, itemRun⟩ := run_padded .value
        (.object start done (some locatedKey) :: outer) (spot.afterAll keyText) ('\x7d' :: rest)
        isItem (Or.inr (Or.inr rfl))
      refine ⟨[(locatedKey, some located)], .cons keyRead isRead .nil, ?_⟩
      rw [List.append_assoc, keyRun, itemRun, Spot.afterAll_append]
      rfl
  | _, _, @MembersText.more key item members keyText text others isKey isItem areMembers => by
      obtain ⟨locatedKey, keyRead, keyRun⟩ := run_key awaitsKey start done outer spot
        (text ++ ',' :: (others ++ '\x7d' :: rest)) isKey
      obtain ⟨first, isRead, itemRun⟩ := run_padded .value
        (.object start done (some locatedKey) :: outer) (spot.afterAll keyText)
        (',' :: (others ++ '\x7d' :: rest)) isItem (Or.inr (Or.inl rfl))
      obtain ⟨located, areRead, membersRun⟩ := run_members (Or.inr rfl) start
        ((locatedKey, some first) :: done) outer (((spot.afterAll keyText).afterAll text).after ',')
        rest areMembers
      refine ⟨(locatedKey, some first) :: located, .cons keyRead isRead areRead, ?_⟩
      rw [List.append_assoc, List.append_assoc, List.cons_append, keyRun, itemRun, run_of_step rfl]
      refine membersRun.trans ?_
      rw [Spot.afterAll_append, Spot.afterAll_append, Spot.afterAll_cons, List.reverse_cons,
        List.append_assoc, List.singleton_append]

end

end Reader

/-- A text of the grammar is read without a fault, and what is read is the document that it stands for. -/
theorem locate_of_paddedText {value : Ordered} {text : String}
    (isText : PaddedText value text.toList) :
    ∃ located : Located, locate text = ⟨some located, none⟩ ∧ located.Shows value := by
  obtain ⟨located, isShown, wholeRun⟩ := Reader.run_padded .value [] {} [] isText trivial
  rw [List.append_nil] at wholeRun
  exact ⟨located, wholeRun, isShown⟩

theorem readOrdered_of_paddedText {value : Ordered} {text : String}
    (isText : PaddedText value text.toList) : readOrdered text = .ok value := by
  obtain ⟨located, isLocated, isShown⟩ := locate_of_paddedText isText
  rw [readOrdered, isLocated, LocatedDocument.decode]
  dsimp only
  rw [isShown.ordered_eq]

end RepoSurvey.Json
