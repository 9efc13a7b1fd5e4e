import RepoSurvey.Json.Number

/-!
# Document values

Values with objects whose members are sorted by key, each key once.
-/

namespace RepoSurvey.Json

inductive Value
  | null
  | bool (value : Bool)
  | number (value : Number)
  | string (value : String)
  | array (items : List Value)
  | object (members : List (String × Value))
  deriving Inhabited

/-- Keeps the last of several neighbours with the same key. -/
def lastOfEach {α : Type} : List (String × α) → List (String × α)
  | first :: second :: rest =>
      if first.1 == second.1 then lastOfEach (second :: rest)
      else first :: lastOfEach (second :: rest)
  | short => short

/-- Members sorted by key, the last of those with the same key kept. -/
def sortMembers {α : Type} (members : List (String × α)) : List (String × α) :=
  lastOfEach (members.mergeSort fun left right => !decide (right.1 < left.1))

namespace Value

/-- The object with these members. -/
def ofMembers (members : List (String × Value)) : Value := .object (sortMembers members)

def text (value : String) : Value := .string value

def natural (value : Nat) : Value := .number (.integer value)

/-- The member of an object with this key. -/
def member? (key : String) : Value → Option Value
  | object members => members.lookup key
  | _ => none

end Value

end RepoSurvey.Json
