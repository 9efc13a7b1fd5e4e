import RepoSurvey.Proofs.Json.Spacing

/-!
# Lines of documents

A document on several lines, line by line: every part of a container starts a line of its own, two blanks
further in than the container, and the closing bracket stands where the container does.  No text between
quotation marks breaks a line.
-/

namespace RepoSurvey.Json

/-- What stands in a line, and in how many containers. -/
structure Line where
  depth : Nat
  text : String

/-- A line with the blanks at its start. -/
def Line.shown (line : Line) : String :=
  String.ofList (List.replicate (2 * line.depth) ' ') ++ line.text

/-- The lines with a line break in front of each. -/
def brokenLines (lines : List Line) : String := String.join (lines.map ("\n" ++ ·.shown))

@[simp] theorem brokenLines_nil : brokenLines [] = "" := rfl

@[simp] theorem brokenLines_cons (line : Line) (rest : List Line) :
    brokenLines (line :: rest) = Ordered.lineBreak line.depth ++ line.text ++ brokenLines rest := by
  rw [brokenLines, List.map_cons, String.join_cons, Line.shown, ← String.append_assoc,
    Ordered.lineBreak, String.ofList_cons]
  rfl

@[simp] theorem brokenLines_append (lines others : List Line) :
    brokenLines (lines ++ others) = brokenLines lines ++ brokenLines others := by
  induction lines with
  | nil => rw [List.nil_append, brokenLines_nil, String.empty_append]
  | cons line rest ih =>
      rw [List.cons_append, brokenLines_cons, ih, brokenLines_cons]
      simp only [String.append_assoc]

/-- What follows a part of a container. -/
def commaBefore {α : Type} (rest : List α) : String := if rest.isEmpty then "" else ","

namespace Ordered

mutual

/-- The lines of a document inside `depth` containers, with what stands before it and behind it. -/
def lines (depth : Nat) (before after : String) : Ordered → List Line
  | null => [⟨depth, before ++ "null" ++ after⟩]
  | bool value => [⟨depth, before ++ toString value ++ after⟩]
  | number value => [⟨depth, before ++ value.text ++ after⟩]
  | string value => [⟨depth, before ++ quote value ++ after⟩]
  | array items =>
      if items.isEmpty then [⟨depth, before ++ "[]" ++ after⟩]
      else ⟨depth, before ++ "["⟩ :: linesOfItems (depth + 1) items ++ [⟨depth, "]" ++ after⟩]
  | object members =>
      if members.isEmpty then [⟨depth, before ++ "\x7b\x7d" ++ after⟩]
      else
        ⟨depth, before ++ "\x7b"⟩ :: linesOfMembers (depth + 1) members ++ [⟨depth, "\x7d" ++ after⟩]

def linesOfItems (depth : Nat) : List Ordered → List Line
  | [] => []
  | item :: rest => lines depth "" (commaBefore rest) item ++ linesOfItems depth rest

def linesOfMembers (depth : Nat) : List (String × Ordered) → List Line
  | [] => []
  | (key, item) :: rest =>
      lines depth (quote key ++ ": ") (commaBefore rest) item ++ linesOfMembers depth rest

end

mutual

theorem brokenLines_lines (depth : Nat) (before after : String) : (document : Ordered) →
    brokenLines (document.lines depth before after) =
      lineBreak depth ++ before ++ document.pretty depth ++ after
  | null | bool _ | number _ | string _ => by
      simp only [lines, pretty, brokenLines_cons, brokenLines_nil, String.append_empty,
        String.append_assoc]
  | array [] | object [] => by
      simp [lines, pretty, prettyItems, prettyMembers, bracketed, String.append_assoc]
  | array (item :: rest) => by
      rw [lines, List.isEmpty_cons, if_neg Bool.false_ne_true, brokenLines_append, brokenLines_cons,
        brokenLines_linesOfItems (depth + 1) (item :: rest) (List.cons_ne_nil _ _), pretty, bracketed]
      simp [prettyItems, String.append_assoc]
  | object (member :: rest) => by
      rw [lines, List.isEmpty_cons, if_neg Bool.false_ne_true, brokenLines_append, brokenLines_cons,
        brokenLines_linesOfMembers (depth + 1) (member :: rest) (List.cons_ne_nil _ _), pretty,
        bracketed]
      simp [prettyMembers, String.append_assoc]

theorem brokenLines_linesOfItems (depth : Nat) : (items : List Ordered) → items ≠ [] →
    brokenLines (linesOfItems depth items) =
      lineBreak depth ++ ("," ++ lineBreak depth).intercalate (prettyItems depth items)
  | item :: [], _ => by
      rw [linesOfItems, brokenLines_append, brokenLines_lines depth _ _ item]
      simp [linesOfItems, prettyItems, commaBefore]
  | item :: second :: rest, _ => by
      rw [linesOfItems, brokenLines_append, brokenLines_lines depth _ _ item,
        brokenLines_linesOfItems depth (second :: rest) (List.cons_ne_nil _ _)]
      simp [prettyItems, commaBefore, String.append_assoc]

theorem brokenLines_linesOfMembers (depth : Nat) : (members : List (String × Ordered)) →
    members ≠ [] → brokenLines (linesOfMembers depth members) =
      lineBreak depth ++ ("," ++ lineBreak depth).intercalate (prettyMembers depth members)
  | (key, item) :: [], _ => by
      rw [linesOfMembers, brokenLines_append, brokenLines_lines depth _ _ item]
      simp [linesOfMembers, prettyMembers, commaBefore, String.append_assoc]
  | (key, item) :: second :: rest, _ => by
      rw [linesOfMembers, brokenLines_append, brokenLines_lines depth _ _ item,
        brokenLines_linesOfMembers depth (second :: rest) (List.cons_ne_nil _ _)]
      simp [prettyMembers, commaBefore, String.append_assoc]

end

/-! ## Where lines end -/

/-- A text in one line. -/
def InOneLine (text : String) : Prop := '\n' ∉ text.toList

theorem InOneLine.append {left right : String} (isLeft : InOneLine left) (isRight : InOneLine right) :
    InOneLine (left ++ right) := by
  unfold InOneLine
  rw [String.toList_append, List.mem_append, not_or]
  exact ⟨isLeft, isRight⟩

theorem inOneLine_empty : InOneLine "" := List.not_mem_nil

/-- Blanks at the start of a line do not break it. -/
theorem InOneLine.shown {line : Line} (inOneLine : InOneLine line.text) : InOneLine line.shown := by
  refine InOneLine.append (fun isIn => ?_) inOneLine
  rw [String.toList_ofList] at isIn
  exact absurd (List.eq_of_mem_replicate isIn) (by decide)

theorem inOneLine_number (number : Number) : InOneLine number.text := by
  intro isIn
  have isSign := number.text_signs '\n' isIn
  exact absurd isSign (by decide)

end Ordered

/-- Between quotation marks a line break is written with other signs. -/
theorem QuotedText.notMem_newline {content text : List Char} (isQuoted : QuotedText content text) :
    '\n' ∉ text := by
  induction isQuoted with
  | nil => exact List.not_mem_nil
  | plain isPlain _ ih =>
      refine List.not_mem_cons_of_ne_of_not_mem ?_ ih
      rintro rfl
      exact absurd isPlain (by decide)
  | @escape letter meant content text isEscape _ ih =>
      have areLetters : ∀ pair ∈ escapes, '\n' ≠ pair.1 := by decide
      exact List.not_mem_cons_of_ne_of_not_mem (by decide)
        (List.not_mem_cons_of_ne_of_not_mem (areLetters _ isEscape) ih)
  | @code first second third fourth meant content text isCode _ ih =>
      have noDigit : ∀ digit ∈ [first, second, third, fourth], '\n' ≠ digit := by
        rintro digit isIn rfl
        obtain ⟨value, isDigit⟩ := hexValue_of_hexNumber isCode _ isIn
        cases isDigit
      simp only [List.forall_mem_cons] at noDigit
      simp [noDigit, ih]

namespace Ordered

theorem inOneLine_quote (content : String) : InOneLine (quote content) := by
  obtain ⟨text, isQuoted, text_eq⟩ := quote_isQuoted content
  rw [InOneLine, text_eq]
  simp [isQuoted.notMem_newline]

theorem inOneLine_commaBefore {α : Type} (rest : List α) : InOneLine (commaBefore rest) := by
  unfold commaBefore InOneLine
  split <;> decide

mutual

/-- No line of a document has a line break in it. -/
theorem inOneLine_of_mem_lines (depth : Nat) {before after : String} (isBefore : InOneLine before)
    (isAfter : InOneLine after) : (document : Ordered) →
      ∀ line ∈ document.lines depth before after, InOneLine line.text
  | null => by
      rw [lines, List.forall_mem_singleton]
      exact (isBefore.append (by unfold InOneLine; decide)).append isAfter
  | bool value => by
      rw [lines, List.forall_mem_singleton]
      have isWord : InOneLine (toString value) := by
        unfold InOneLine
        cases value <;> decide
      exact (isBefore.append isWord).append isAfter
  | number value => by
      rw [lines, List.forall_mem_singleton]
      exact (isBefore.append (inOneLine_number value)).append isAfter
  | string value => by
      rw [lines, List.forall_mem_singleton]
      exact (isBefore.append (inOneLine_quote value)).append isAfter
  | array items => by
      have areBrackets : InOneLine "[]" ∧ InOneLine "[" ∧ InOneLine "]" := by
        unfold InOneLine
        decide
      rw [lines]
      split
      · rw [List.forall_mem_singleton]
        exact (isBefore.append areBrackets.1).append isAfter
      · rw [List.forall_mem_append, List.forall_mem_cons, List.forall_mem_singleton]
        exact ⟨⟨isBefore.append areBrackets.2.1, inOneLine_of_mem_linesOfItems (depth + 1) items⟩,
          areBrackets.2.2.append isAfter⟩
  | object members => by
      have areBrackets : InOneLine "\x7b\x7d" ∧ InOneLine "\x7b" ∧ InOneLine "\x7d" := by
        unfold InOneLine
        decide
      rw [lines]
      split
      · rw [List.forall_mem_singleton]
        exact (isBefore.append areBrackets.1).append isAfter
      · rw [List.forall_mem_append, List.forall_mem_cons, List.forall_mem_singleton]
        exact ⟨⟨isBefore.append areBrackets.2.1, inOneLine_of_mem_linesOfMembers (depth + 1) members⟩,
          areBrackets.2.2.append isAfter⟩

theorem inOneLine_of_mem_linesOfItems (depth : Nat) : (items : List Ordered) →
    ∀ line ∈ linesOfItems depth items, InOneLine line.text
  | [] => by
      rw [linesOfItems]
      exact List.forall_mem_nil _
  | item :: rest => by
      rw [linesOfItems, List.forall_mem_append]
      exact ⟨inOneLine_of_mem_lines depth inOneLine_empty (inOneLine_commaBefore rest) item,
        inOneLine_of_mem_linesOfItems depth rest⟩

theorem inOneLine_of_mem_linesOfMembers (depth : Nat) : (members : List (String × Ordered)) →
    ∀ line ∈ linesOfMembers depth members, InOneLine line.text
  | [] => by
      rw [linesOfMembers]
      exact List.forall_mem_nil _
  | (key, item) :: rest => by
      have isColon : InOneLine ": " := by
        unfold InOneLine
        decide
      rw [linesOfMembers, List.forall_mem_append]
      exact ⟨inOneLine_of_mem_lines depth ((inOneLine_quote key).append isColon)
        (inOneLine_commaBefore rest) item, inOneLine_of_mem_linesOfMembers depth rest⟩

end

theorem lines_ne_nil (depth : Nat) (before after : String) (document : Ordered) :
    document.lines depth before after ≠ [] := by
  cases document with
  | array items | object items =>
      rw [lines]
      split
      · exact List.cons_ne_nil _ _
      · exact List.append_ne_nil_of_left_ne_nil (List.cons_ne_nil _ _) _
  | _ =>
      rw [lines]
      exact List.cons_ne_nil _ _

theorem pretty_eq_intercalate (document : Ordered) :
    document.pretty 0 = "\n".intercalate ((document.lines 0 "" "").map Line.shown) := by
  have broken_eq := brokenLines_lines 0 "" "" document
  obtain ⟨first, rest, lines_eq⟩ := List.exists_cons_of_ne_nil (lines_ne_nil 0 "" "" document)
  rw [lines_eq, brokenLines, List.map_cons, String.join_cons, String.append_empty,
    String.append_empty, String.append_assoc] at broken_eq
  rw [lines_eq, List.map_cons, intercalate_cons, List.map_map]
  exact ((String.append_right_inj "\n").mp broken_eq).symm

/-- A document on several lines breaks exactly into its lines. -/
theorem splitOn_pretty (document : Ordered) :
    (document.pretty 0).toList.splitOn '\n' =
      (document.lines 0 "" "").map (·.shown.toList) := by
  rw [pretty_eq_intercalate, String.toList_intercalate, List.map_map]
  change List.splitOn '\n' (['\n'].intercalate _) = _
  rw [List.splitOn_intercalate]
  · rfl
  · intro line isLine
    obtain ⟨line, isIn, rfl⟩ := List.mem_map.mp isLine
    exact (inOneLine_of_mem_lines 0 inOneLine_empty inOneLine_empty document line isIn).shown
  · exact mt List.map_eq_nil_iff.mp (lines_ne_nil 0 "" "" document)

example :
    ((object [("a", array []), ("b", array [null, object []])]).lines 0 "" "").map Line.shown =
      ["\x7b", "  \"a\": [],", "  \"b\": [", "    null,", "    \x7b\x7d", "  ]", "\x7d"] := by
  cbv

end Ordered

end RepoSurvey.Json
