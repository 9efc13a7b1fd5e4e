import RepoSurvey.Proofs.Json.Writing
import RepoSurvey.Text.Trim

/-!
# White space in documents

White space in a document stands for something only between quotation marks.  Without the rest of it a
document with each part on a line of its own is the same as in one line.
-/

namespace RepoSurvey.Json

/-! ## What numbers are written with -/

def isNumberSign (character : Char) : Bool :=
  character.isDigit || ['-', '+', '.', 'e'].contains character

/-- A text with nothing but the signs that numbers are written with. -/
def HasNumberSigns (text : String) : Prop := ∀ character ∈ text.toList, isNumberSign character = true

namespace HasNumberSigns

theorem of_all {text : String} (areSigns : text.toList.all isNumberSign = true) :
    HasNumberSigns text :=
  List.all_eq_true.mp areSigns

theorem append {left right : String} (isLeft : HasNumberSigns left)
    (isRight : HasNumberSigns right) : HasNumberSigns (left ++ right) := by
  unfold HasNumberSigns
  rw [String.toList_append]
  exact List.forall_mem_append.mpr ⟨isLeft, isRight⟩

theorem ofNat (number : Nat) : HasNumberSigns (toString number) := by
  intro character isIn
  have isDigit : character ∈ Nat.toDigits 10 number := by
    rw [← Nat.toList_repr]
    exact isIn
  rw [isNumberSign, Nat.isDigit_of_mem_toDigits (by decide) (by decide) isDigit, Bool.true_or]

theorem ofInt (number : Int) : HasNumberSigns (toString number) := by
  cases number with
  | ofNat number => exact ofNat number
  | negSucc number =>
      have isSign : HasNumberSigns "-" := .of_all (by decide)
      exact isSign.append (ofNat (number + 1))

theorem zeros (count : Nat) : HasNumberSigns ("".pushn '0' count) := by
  rw [String.pushn_eq_repeat_push]
  induction count with
  | zero => exact List.forall_mem_nil _
  | succ count ih =>
      intro character isIn
      rw [Nat.repeat, String.toList_push, List.mem_append, List.mem_singleton] at isIn
      rcases isIn with isIn | rfl
      · exact ih character isIn
      · decide

theorem ofList {characters : List Char} {text : String} (isText : HasNumberSigns text)
    (subset : characters ⊆ text.toList) : HasNumberSigns (String.ofList characters) := by
  intro character isIn
  rw [String.toList_ofList] at isIn
  exact isText character (subset isIn)

end HasNumberSigns

namespace Double

open HasNumberSigns

theorem plain_signs {digits : String} (areDigits : HasNumberSigns digits) (power : Int) :
    HasNumberSigns (plain digits power) := by
  have isPoint : HasNumberSigns "." := .of_all (by decide)
  have isEnd : HasNumberSigns ".0" := .of_all (by decide)
  have isStart : HasNumberSigns "0." := .of_all (by decide)
  unfold plain
  dsimp only
  split
  · exact (areDigits.append (zeros _)).append isEnd
  · split
    · exact ((areDigits.ofList (List.take_subset _ _)).append isPoint).append
        (areDigits.ofList (List.drop_subset _ _))
    · exact (isStart.append (zeros _)).append areDigits

theorem scientific_signs {digits : String} (areDigits : HasNumberSigns digits) (power : Int) :
    HasNumberSigns (scientific digits power) := by
  have areSigns : HasNumberSigns "-" ∧ HasNumberSigns "+" ∧ HasNumberSigns "e" ∧
      HasNumberSigns "." ∧ HasNumberSigns "0" :=
    ⟨.of_all (by decide), .of_all (by decide), .of_all (by decide), .of_all (by decide),
      .of_all (by decide)⟩
  obtain ⟨isMinus, isPlus, isExponent, isPoint, isZero⟩ := areSigns
  have isSign (isNegative : Prop) [Decidable isNegative] :
      HasNumberSigns (if isNegative then "-" else "+") := by
    split
    · exact isMinus
    · exact isPlus
  unfold scientific
  dsimp only
  refine HasNumberSigns.append (.append (.append ?_ isExponent) (isSign _)) (ofNat _)
  split
  · exact isZero
  · rename_i only digits_eq
    exact areDigits.ofList (by rw [digits_eq]; exact List.Subset.refl _)
  · rename_i first rest _ digits_eq
    refine HasNumberSigns.append (.append ?_ isPoint) ?_
    · exact areDigits.ofList (by rw [digits_eq]; simp)
    · exact areDigits.ofList (by rw [digits_eq]; exact List.subset_cons_self _ _)

theorem text_signs (number : Double) : HasNumberSigns number.text := by
  have isSign (isNegative : Bool) : HasNumberSigns (if isNegative then "-" else "") := by
    cases isNegative <;> exact .of_all (by decide)
  have isZero : HasNumberSigns "0.0" := .of_all (by decide)
  unfold text
  dsimp only
  split
  · exact (isSign _).append isZero
  · split
    · exact (isSign _).append (plain_signs (ofNat _) _)
    · exact (isSign _).append (scientific_signs (ofNat _) _)

end Double

theorem Number.text_signs (number : Number) : HasNumberSigns number.text := by
  cases number with
  | integer value => exact .ofInt value
  | double value => exact value.text_signs

/-! ## White space outside quotation marks -/

/-- Where a reader of a document stands. -/
inductive Quoting
  | outside
  | inside
  /-- Inside quotation marks, behind a backslash. -/
  | escaped
  deriving DecidableEq

def Quoting.after : Quoting → Char → Quoting
  | outside, character => if character == '"' then inside else outside
  | inside, character =>
      if character == '"' then outside else if character == '\\' then escaped else inside
  | escaped, _ => inside

/-- Characters without the white space that stands outside quotation marks. -/
def condense : Quoting → List Char → List Char
  | _, [] => []
  | quoting, character :: rest =>
      if quoting == .outside && isWhiteSpace character then condense quoting rest
      else character :: condense (quoting.after character) rest

/-- A text without the white space that stands outside quotation marks. -/
def withoutBlanks (text : String) : String := String.ofList (condense .outside text.toList)

/-- Wherever a text stands outside quotation marks, it ends there, and this is left of it. -/
def Condenses (text condensed : String) : Prop :=
  ∀ rest, condense .outside (text.toList ++ rest) = condensed.toList ++ condense .outside rest

theorem Condenses.withoutBlanks_eq {text condensed : String} (condenses : Condenses text condensed) :
    withoutBlanks text = condensed := by
  have whole := condenses []
  rw [List.append_nil, condense, List.append_nil] at whole
  rw [withoutBlanks, whole, String.ofList_toList]

namespace Condenses

variable {text condensed other condensedOther : String}

theorem append (condenses : Condenses text condensed) (others : Condenses other condensedOther) :
    Condenses (text ++ other) (condensed ++ condensedOther) := by
  intro rest
  rw [String.toList_append, String.toList_append, List.append_assoc, condenses, others,
    List.append_assoc]

theorem blanks (areBlanks : text.toList.all isWhiteSpace = true) : Condenses text "" := by
  intro rest
  rw [List.all_eq_true] at areBlanks
  rw [String.toList_empty, List.nil_append]
  generalize text.toList = characters at areBlanks ⊢
  induction characters with
  | nil => rfl
  | cons character others ih =>
      obtain ⟨isBlank, areBlanks⟩ := List.forall_mem_cons.mp areBlanks
      rw [List.cons_append, condense, isBlank]
      exact ih areBlanks

/-- A text without white space and quotation marks stays as it is. -/
theorem same
    (areSigns : text.toList.all (fun character => !isWhiteSpace character && character != '"') = true) :
    Condenses text text := by
  intro rest
  simp only [List.all_eq_true, Bool.and_eq_true, Bool.not_eq_true', bne_iff_ne] at areSigns
  generalize text.toList = characters at areSigns ⊢
  induction characters with
  | nil => rfl
  | cons character others ih =>
      obtain ⟨⟨isSign, noQuote⟩, areSigns⟩ := List.forall_mem_cons.mp areSigns
      have stillOutside : Quoting.outside.after character = .outside :=
        if_neg (mt beq_iff_eq.mp noQuote)
      rw [List.cons_append, condense, isSign, Bool.and_false, if_neg Bool.false_ne_true,
        stillOutside, ih areSigns, List.cons_append]

theorem number (areSigns : HasNumberSigns text) : Condenses text text := by
  refine same (List.all_eq_true.mpr fun character isIn => ?_)
  rw [Bool.and_eq_true, Bool.not_eq_true', bne_iff_ne]
  have isSign := areSigns character isIn
  rw [isNumberSign, Bool.or_eq_true, List.contains_iff_mem] at isSign
  rcases isSign with isDigit | isMark
  · have isCode : 48 ≤ character.toNat ∧ character.toNat ≤ 57 := Char.isDigit_iff_toNat.mp isDigit
    refine ⟨?_, ?_⟩
    · simp [isWhiteSpace]
      omega
    · rintro rfl
      cases isDigit
  · simp only [List.mem_cons, List.not_mem_nil, or_false] at isMark
    rcases isMark with rfl | rfl | rfl | rfl <;> decide

end Condenses

/-! ## Texts in quotation marks -/

/-- Inside quotation marks everything is kept. -/
theorem condense_inside {quoting : Quoting} (isInside : quoting ≠ .outside) (character : Char)
    (rest : List Char) :
    condense quoting (character :: rest) = character :: condense (quoting.after character) rest := by
  rw [condense, beq_eq_false_iff_ne.mpr isInside, Bool.false_and, if_neg Bool.false_ne_true]

theorem after_of_hexValue {character : Char} {value : Nat}
    (isDigit : TextProgress.hexValue character = some value) :
    Quoting.inside.after character = .inside := by
  have noQuote : character ≠ '"' := by
    rintro rfl
    cases isDigit
  have noBackslash : character ≠ '\\' := by
    rintro rfl
    cases isDigit
  simp [Quoting.after, noQuote, noBackslash]

theorem hexValue_of_hexNumber {first second third fourth : Char} {number : Nat}
    (isCode : hexNumber [first, second, third, fourth] = some number) :
    ∀ digit ∈ [first, second, third, fourth], ∃ value, TextProgress.hexValue digit = some value := by
  simp only [hexNumber, List.foldlM_cons, List.foldlM_nil, Option.bind_eq_bind,
    Option.bind_eq_some_iff, Option.map_eq_some_iff] at isCode
  obtain ⟨_, ⟨a, isFirst, _⟩, _, ⟨b, isSecond, _⟩, _, ⟨c, isThird, _⟩, _, ⟨d, isFourth, _⟩, _⟩ := isCode
  simp [isFirst, isSecond, isThird, isFourth]

/-- The inside of quotation marks stays as it is, and does not end them. -/
theorem QuotedText.condense_eq {content text : List Char} (isQuoted : QuotedText content text)
    (rest : List Char) :
    condense .inside (text ++ rest) = text ++ condense .inside rest := by
  have notOutside : Quoting.inside ≠ .outside := by decide
  induction isQuoted with
  | nil => rfl
  | @plain character content text isPlain _ ih =>
      have stillInside : Quoting.inside.after character = .inside := by
        simp only [isPlainChar, Bool.and_eq_true, bne_iff_ne] at isPlain
        simp [Quoting.after, isPlain]
      rw [List.cons_append, condense_inside notOutside, stillInside, ih, List.cons_append]
  | @escape letter meant content text isEscape _ ih =>
      have escapes (others : List Char) :
          condense .inside ('\\' :: letter :: others) = '\\' :: letter :: condense .inside others :=
        rfl
      rw [List.cons_append, List.cons_append, escapes, ih, List.cons_append, List.cons_append]
  | @code first second third fourth meant content text isCode _ ih =>
      have areDigits (digit : Char) (isIn : digit ∈ [first, second, third, fourth]) :
          Quoting.inside.after digit = .inside := by
        obtain ⟨value, isDigit⟩ := hexValue_of_hexNumber isCode digit isIn
        exact after_of_hexValue isDigit
      have escapes (others : List Char) :
          condense .inside ('\\' :: 'u' :: others) = '\\' :: 'u' :: condense .inside others := rfl
      have digits (others : List Char) :
          condense .inside (first :: second :: third :: fourth :: others) =
            first :: second :: third :: fourth :: condense .inside others := by
        rw [condense_inside notOutside, areDigits first (by simp), condense_inside notOutside,
          areDigits second (by simp), condense_inside notOutside, areDigits third (by simp),
          condense_inside notOutside, areDigits fourth (by simp)]
      simp only [List.cons_append, escapes, digits, ih]

theorem Condenses.quote (content : String) : Condenses (quote content) (quote content) := by
  intro rest
  obtain ⟨text, isQuoted, text_eq⟩ := quote_isQuoted content
  have opens (others : List Char) :
      condense .outside ('"' :: others) = '"' :: condense .inside others := rfl
  have closes (others : List Char) :
      condense .inside ('"' :: others) = '"' :: condense .outside others := rfl
  rw [text_eq, List.cons_append, opens, List.append_assoc, isQuoted.condense_eq]
  simp only [List.cons_append, List.nil_append, List.append_assoc, closes]

/-! ## Documents -/

namespace Condenses

theorem lineBreak (depth : Nat) : Condenses (Ordered.lineBreak depth) "" := by
  refine blanks (List.all_eq_true.mpr fun character isIn => ?_)
  rw [Ordered.lineBreak, String.toList_ofList, List.mem_cons] at isIn
  rcases isIn with rfl | isIn
  · decide
  · rw [List.eq_of_mem_replicate isIn]
    decide

theorem comma (depth : Nat) : Condenses ("," ++ Ordered.lineBreak depth) "," := by
  have isComma : Condenses "," "," := .same (by decide)
  exact isComma.append (.lineBreak depth)

theorem colon : Condenses ": " ":" := by
  have isMark : Condenses ":" ":" := .same (by decide)
  have isBlank : Condenses " " "" := .blanks (by decide)
  exact isMark.append isBlank

theorem intercalate (depth : Nat) {parts condensed : List String}
    (condense : List.Forall₂ Condenses parts condensed) :
    Condenses (("," ++ Ordered.lineBreak depth).intercalate parts) (",".intercalate condensed) := by
  induction condense with
  | nil => exact fun _ => rfl
  | @cons part first parts condensed isFirst others ih =>
      cases others with
      | nil => simpa only [String.intercalate_singleton] using isFirst
      | cons _ _ =>
          rw [String.intercalate_cons_cons, String.intercalate_cons_cons]
          exact (isFirst.append (comma depth)).append ih

/-- Of a container with parts on lines of their own the parts, the commas and the brackets are left. -/
theorem bracketed {opening closing : String} (isOpening : Condenses opening opening)
    (isClosing : Condenses closing closing) (depth : Nat) {parts condensed : List String}
    (condense : List.Forall₂ Condenses parts condensed) :
    Condenses (Ordered.bracketed opening closing depth parts)
      (opening ++ ",".intercalate condensed ++ closing) := by
  have empty : Condenses "" "" := fun _ => rfl
  cases condense with
  | nil =>
      have whole := (isOpening.append empty).append isClosing
      simpa [Ordered.bracketed] using whole
  | cons isFirst others =>
      rw [Ordered.bracketed, List.isEmpty_cons, if_neg Bool.false_ne_true]
      have start := isOpening.append (.lineBreak (depth + 1))
      have content := start.append (intercalate (depth + 1) (.cons isFirst others))
      have whole := (content.append (.lineBreak depth)).append isClosing
      simpa only [String.append_empty] using whole

mutual

/-- Without the white space between its parts a document is written in one line. -/
theorem pretty (depth : Nat) : (document : Ordered) →
    Condenses (document.pretty depth) document.compact
  | .null => by
      rw [Ordered.pretty, Ordered.compact]
      exact .same (by decide)
  | .bool true => by
      rw [Ordered.pretty, Ordered.compact]
      exact .same (by decide)
  | .bool false => by
      rw [Ordered.pretty, Ordered.compact]
      exact .same (by decide)
  | .number value => by
      rw [Ordered.pretty, Ordered.compact]
      exact .number value.text_signs
  | .string content => by
      rw [Ordered.pretty, Ordered.compact]
      exact .quote content
  | .array items => by
      rw [Ordered.pretty, Ordered.compact]
      exact .bracketed (.same (by decide)) (.same (by decide)) depth (prettyItems (depth + 1) items)
  | .object members => by
      rw [Ordered.pretty, Ordered.compact]
      exact .bracketed (.same (by decide)) (.same (by decide)) depth
        (prettyMembers (depth + 1) members)

theorem prettyItems (depth : Nat) : (items : List Ordered) →
    List.Forall₂ Condenses (Ordered.prettyItems depth items) (Ordered.compactItems items)
  | [] => by
      rw [Ordered.prettyItems]
      exact .nil
  | item :: rest => by
      rw [Ordered.prettyItems]
      exact .cons (pretty depth item) (prettyItems depth rest)

theorem prettyMembers (depth : Nat) : (members : List (String × Ordered)) →
    List.Forall₂ Condenses (Ordered.prettyMembers depth members) (Ordered.compactMembers members)
  | [] => by
      rw [Ordered.prettyMembers]
      exact .nil
  | (key, item) :: rest => by
      rw [Ordered.prettyMembers]
      exact .cons (((quote key).append colon).append (pretty depth item)) (prettyMembers depth rest)

end

end Condenses

end RepoSurvey.Json
