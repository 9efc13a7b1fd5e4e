import RepoSurvey.Prose.Characters
import RepoSurvey.Text.CaseFolding

/-!
# Parts of links

Labels, destinations and titles, and the definitions of labels.
-/

namespace RepoSurvey.Prose

/-- The words of a text without the white space around and between them. -/
def squeeze : List Char → List Char
  | [] => []
  | first :: rest =>
      if isSpaceChar first then
        match squeeze rest with
        | [] => []
        | ' ' :: others => ' ' :: others
        | others => ' ' :: others
      else first :: squeeze rest

/-- A label with single blanks between its words. -/
def tidyLabel (label : List Char) : String := String.ofList ((squeeze label).dropWhile (· == ' '))

/-- How long a label is that ends with the next bracket; `none` if it is none. There may be a
thousand characters at most, and no line without text. -/
def labelLength? : Nat → Bool → List Char → Option Nat
  | 0, _, _ => none
  | _ + 1, _, [] => none
  | _ + 1, _, '[' :: _ => none
  | _ + 1, _, ']' :: _ => some 0
  | fuel + 1, _, '\\' :: _ :: rest => (labelLength? (fuel - 1) false rest).map (· + 2)
  | fuel + 1, afterBreak, character :: rest =>
      if character == '\n' then
        if afterBreak then none else (labelLength? fuel true rest).map (· + 1)
      else
        (labelLength? fuel (afterBreak && isBlankChar character) rest).map (· + 1)

/-- A label after its opening bracket, and its length with the closing one. -/
def label? (text : List Char) : Option (String × Nat) :=
  match labelLength? 1000 false text with
  | none => none
  | some length =>
      let content := text.take length
      if content.all isSpaceChar then none else some (tidyLabel content, length + 1)

/-- What a label in brackets refers to. -/
inductive Label
  | link (name : String)
  | footnote (name : String)
  deriving BEq, DecidableEq, Repr

/-- A label with its opening bracket, and its length with both brackets. Labels of footnotes start
with `^` and do not break over lines. -/
def bracketedLabel? (text : List Char) : Option (Label × Nat) :=
  match text with
  | '[' :: rest =>
      let footnote := match rest with
        | '^' :: note =>
            if note.head? == some ']' then none
            else
              (label? note).filter fun (_, length) => !(note.take length).contains '\n'
        | _ => none
      match footnote with
      | some (name, length) => some (.footnote name, length + 2)
      | none => (label? rest).map fun (name, length) => (.link name, length + 1)
  | _ => none

/-! ## Destinations and titles -/

/-- The rest of a destination in angle brackets: how long it is without the closing one. -/
def angledLength? : List Char → Option Nat
  | [] => none
  | '\n' :: _ => none
  | '<' :: _ => none
  | '>' :: _ => some 0
  | '\\' :: second :: rest =>
      if isPunctuationChar second then (angledLength? rest).map (· + 2)
      else (angledLength? (second :: rest)).map (· + 1)
  | _ :: rest => (angledLength? rest).map (· + 1)

/-- The length of a destination without brackets around it. Parentheses in it come in pairs, at most
32 inside one another. -/
def plainLength? (depth : Nat) : List Char → Option Nat
  | [] => if depth == 0 then some 0 else none
  | '(' :: rest => if 32 < depth then none else (plainLength? (depth + 1) rest).map (· + 1)
  | ')' :: rest =>
      if depth == 0 then some 0 else (plainLength? (depth - 1) rest).map (· + 1)
  | '\\' :: second :: rest =>
      if isPunctuationChar second then (plainLength? depth rest).map (· + 2)
      else (plainLength? depth (second :: rest)).map (· + 1)
  | character :: rest =>
      if character.toNat ≤ 0x20 then if depth == 0 then some 0 else none
      else (plainLength? depth rest).map (· + 1)

/-- A destination and its length. -/
def destination? (text : List Char) : Option (String × Nat) :=
  match text with
  | '<' :: rest => (angledLength? rest).map fun length => (unescape (rest.take length), length + 2)
  | _ => (plainLength? 0 text).map fun length => (unescape (text.take length), length)

/-- The length of a title up to the character that closes it. -/
def titleLength? (opening closing : Char) : List Char → Option Nat
  | [] => none
  | '\\' :: second :: rest =>
      if isPunctuationChar second then (titleLength? opening closing rest).map (· + 2)
      else (titleLength? opening closing (second :: rest)).map (· + 1)
  | character :: rest =>
      if character == closing then some 0
      else if character == opening then none
      else (titleLength? opening closing rest).map (· + 1)

/-- Drops the blanks at the start of each line but the first. -/
def alignLines (isStart : Bool) : List Char → List Char
  | [] => []
  | character :: rest =>
      if isStart && isBlankChar character then alignLines true rest
      else character :: alignLines (character == '\n') rest

/-- A title in quotation marks or parentheses, and its length with them. -/
def title? (text : List Char) : Option (String × Nat) :=
  match text with
  | [] => none
  | opening :: rest =>
      if opening == '"' || opening == '\'' || opening == '(' then
        let closing := if opening == '(' then ')' else opening
        (titleLength? opening closing rest).map fun length =>
          (unescape (alignLines false (rest.take length)), length + 2)
      else none

/-- White space with at most one line break: how long it is, and whether it has one. -/
def separator (text : List Char) : Nat × Bool :=
  let before := (text.takeWhile isBlankChar).length
  match text.drop before with
  | '\n' :: rest => (before + 1 + (rest.takeWhile isBlankChar).length, true)
  | _ => (before, false)

/-- Destination, title and length of a link, from what follows the bracket after its text. -/
def inlineTarget? (text : List Char) : Option (String × String × Nat) :=
  match text with
  | '(' :: inside =>
      let blanks := (separator inside).1
      match destination? (inside.drop blanks) with
      | none => none
      | some (destination, length) =>
          let used := blanks + length
          let used := used + (separator (inside.drop used)).1
          let (title, used) := match title? (inside.drop used) with
            | some (title, length) =>
                let used := used + length
                (title, used + (separator (inside.drop used)).1)
            | none => ("", used)
          if (inside.drop used).head? == some ')' then some (destination, title, used + 2) else none
  | _ => none

/-! ## Definitions -/

/-- What a label stands for. -/
structure Definition where
  destination : String
  title : String := ""
  deriving BEq, DecidableEq, Inhabited, Repr

/-- Whether only blanks are left in a line, and how many characters end it. -/
def lineEnd? (text : List Char) : Option Nat :=
  let blanks := (text.takeWhile isBlankChar).length
  match text.drop blanks with
  | [] => some blanks
  | '\n' :: _ => some (blanks + 1)
  | _ => none

/-- A definition at the start of a paragraph: its label, what it stands for and its length. A title
that does not end its line is no title. -/
def definition? (text : List Char) : Option (String × Definition × Nat) := do
  let '[' :: afterBracket := text | none
  let (name, labelSize) ← label? afterBracket
  let (':' :: afterColon) := afterBracket.drop labelSize | none
  let start := labelSize + 2
  let blanks := (separator afterColon).1
  let (destination, size) ← destination? (afterColon.drop blanks)
  if size == 0 then none
  let afterDestination := afterColon.drop (blanks + size)
  let used := start + blanks + size
  let bare := (lineEnd? afterDestination).map fun ending =>
    (name, (⟨destination, ""⟩ : Definition), used + ending)
  let gap := (separator afterDestination).1
  if gap == 0 then bare
  else
    match title? (afterDestination.drop gap) with
    | none => bare
    | some (title, titleSize) =>
        match lineEnd? (afterDestination.drop (gap + titleSize)) with
        | some ending => some (name, ⟨destination, title⟩, used + gap + titleSize + ending)
        | none => bare

end RepoSurvey.Prose
