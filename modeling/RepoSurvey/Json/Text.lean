import RepoSurvey.Json.Value

/-!
# Writing documents

Texts in quotation marks, and whole documents without white space.
-/

namespace RepoSurvey.Json

private def hexDigit (value : Nat) : Char := (Nat.digitChar value)

/-- A character inside quotation marks. -/
def escapeChar (character : Char) : String :=
  if character == '"' then "\\\""
  else if character == '\\' then "\\\\"
  else if 0x20 ≤ character.toNat then character.toString
  else if character == '\n' then "\\n"
  else if character == '\r' then "\\r"
  else if character == '\t' then "\\t"
  else if character.toNat == 8 then "\\b"
  else if character.toNat == 12 then "\\f"
  else "\\u00" ++ String.ofList [hexDigit (character.toNat / 16), hexDigit (character.toNat % 16)]

/-- Whether a character stands for itself inside quotation marks. -/
def isPlainChar (character : Char) : Bool :=
  0x20 ≤ character.toNat && character != '"' && character != '\\'

/-- A text in quotation marks. -/
def quote (text : String) : String :=
  if text.all isPlainChar then "\"" ++ text ++ "\""
  else text.foldl (fun quoted character => quoted ++ escapeChar character) "\"" ++ "\""

namespace Value

/-- What is left to be written: values, and marks between them. -/
inductive Pending
  | whole (value : Value)
  | mark (text : String)

/-- The elements of an array with commas between them. -/
def pendingItems : List Value → List Pending
  | [] => []
  | [only] => [.whole only]
  | first :: rest => .whole first :: .mark "," :: pendingItems rest

def pendingMembers : List (String × Value) → List Pending
  | [] => []
  | [(key, only)] => [.mark (quote key ++ ":"), .whole only]
  | (key, first) :: rest =>
      .mark (quote key ++ ":") :: .whole first :: .mark "," :: pendingMembers rest

mutual

/-- How many pieces a value is written in. -/
def pieces : Value → Nat
  | array items => 3 + piecesOfItems items
  | object members => 3 + piecesOfMembers members
  | _ => 1

def piecesOfItems : List Value → Nat
  | [] => 0
  | item :: rest => 2 + pieces item + piecesOfItems rest

def piecesOfMembers : List (String × Value) → Nat
  | [] => 0
  | (_, item) :: rest => 3 + pieces item + piecesOfMembers rest

end

def Pending.weight : Pending → Nat
  | whole value => value.pieces
  | mark _ => 1

def weightOf : List Pending → Nat
  | [] => 0
  | first :: rest => first.weight + weightOf rest

@[simp] theorem weightOf_nil : weightOf [] = 0 := rfl

@[simp] theorem weightOf_cons (first : Pending) (rest : List Pending) :
    weightOf (first :: rest) = first.weight + weightOf rest := rfl

@[simp] theorem weightOf_append (left right : List Pending) :
    weightOf (left ++ right) = weightOf left + weightOf right := by
  induction left with
  | nil => simp
  | cons first rest ih => simp only [List.cons_append, weightOf_cons, ih, Nat.add_assoc]

theorem weightOf_items (items : List Value) : weightOf (pendingItems items) ≤ piecesOfItems items := by
  induction items using pendingItems.induct with
  | case1 => simp [pendingItems]
  | case2 only => simp [pendingItems, piecesOfItems, Pending.weight]
  | case3 first rest _ ih =>
      simp only [pendingItems, piecesOfItems, weightOf_cons, Pending.weight] at ih ⊢
      omega

theorem weightOf_members (members : List (String × Value)) :
    weightOf (pendingMembers members) ≤ piecesOfMembers members := by
  induction members using pendingMembers.induct with
  | case1 => simp [pendingMembers]
  | case2 key only =>
      simp only [pendingMembers, piecesOfMembers, weightOf_cons, weightOf_nil, Pending.weight]
      omega
  | case3 key first rest _ ih =>
      simp only [pendingMembers, piecesOfMembers, weightOf_cons, Pending.weight] at ih ⊢
      omega

/-- Writes what is pending behind `written`. -/
def writePending (written : String) : List Pending → String
  | [] => written
  | .mark text :: rest => writePending (written ++ text) rest
  | .whole null :: rest => writePending (written ++ "null") rest
  | .whole (bool value) :: rest => writePending (written ++ toString value) rest
  | .whole (number value) :: rest => writePending (written ++ value.text) rest
  | .whole (string value) :: rest => writePending (written ++ quote value) rest
  | .whole (array items) :: rest =>
      writePending (written ++ "[") (pendingItems items ++ .mark "]" :: rest)
  | .whole (object members) :: rest =>
      writePending (written ++ "\x7b") (pendingMembers members ++ .mark "\x7d" :: rest)
  termination_by pending => weightOf pending
  decreasing_by
    all_goals simp only [weightOf_cons, weightOf_append, Pending.weight, pieces]
    any_goals omega
    · have := weightOf_items items
      omega
    · have := weightOf_members members
      omega

/-- A document without white space. -/
def compact (value : Value) : String := writePending "" [.whole value]

end Value

end RepoSurvey.Json
