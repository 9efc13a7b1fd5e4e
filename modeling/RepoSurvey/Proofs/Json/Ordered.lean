import RepoSurvey.Json.Text

/-!
# Documents in the order of their text

Documents whose objects keep their members in the order in which they are written, and how such a
document is written by plain recursion: in one line, or with each part on a line of its own.
-/

namespace RepoSurvey.Json

/-- A document whose objects keep the order of their members, and repeated keys. -/
inductive Ordered
  | null
  | bool (value : Bool)
  | number (value : Number)
  | string (value : String)
  | array (items : List Ordered)
  | object (members : List (String × Ordered))
  deriving Inhabited

namespace Ordered

mutual

/-- The document without the order of its members. Of repeated keys the last one counts. -/
def value : Ordered → Value
  | null => .null
  | bool value => .bool value
  | number value => .number value
  | string value => .string value
  | array items => .array (valuesOfItems items)
  | object members => .ofMembers (valuesOfMembers members)

def valuesOfItems : List Ordered → List Value
  | [] => []
  | item :: rest => value item :: valuesOfItems rest

def valuesOfMembers : List (String × Ordered) → List (String × Value)
  | [] => []
  | (key, item) :: rest => (key, value item) :: valuesOfMembers rest

end

/-! ## In one line -/

mutual

/-- The text of a document without white space. -/
def compact : Ordered → String
  | null => "null"
  | bool value => toString value
  | number value => value.text
  | string value => quote value
  | array items => "[" ++ ",".intercalate (compactItems items) ++ "]"
  | object members => "\x7b" ++ ",".intercalate (compactMembers members) ++ "\x7d"

def compactItems : List Ordered → List String
  | [] => []
  | item :: rest => compact item :: compactItems rest

def compactMembers : List (String × Ordered) → List String
  | [] => []
  | (key, item) :: rest => (quote key ++ ":" ++ compact item) :: compactMembers rest

end

theorem compactItems_eq_map (items : List Ordered) : compactItems items = items.map compact := by
  induction items with
  | nil => rfl
  | cons item rest ih => rw [compactItems, List.map_cons, ih]

theorem compactMembers_eq_map (members : List (String × Ordered)) :
    compactMembers members =
      members.map fun member => quote member.1 ++ ":" ++ member.2.compact := by
  induction members with
  | nil => rfl
  | cons member rest ih => rw [compactMembers, List.map_cons, ih]

/-! ## On several lines -/

/-- A line break and two blanks for each open container. -/
def lineBreak (depth : Nat) : String := String.ofList ('\n' :: List.replicate (2 * depth) ' ')

/-- Parts on lines of their own, between brackets. A container without parts stays in one line. -/
def bracketed (opening closing : String) (depth : Nat) (parts : List String) : String :=
  if parts.isEmpty then opening ++ closing
  else
    opening ++ lineBreak (depth + 1) ++ ("," ++ lineBreak (depth + 1)).intercalate parts ++
      lineBreak depth ++ closing

mutual

/-- The text of a document inside `depth` containers, with each part on a line of its own. -/
def pretty (depth : Nat) : Ordered → String
  | null => "null"
  | bool value => toString value
  | number value => value.text
  | string value => quote value
  | array items => bracketed "[" "]" depth (prettyItems (depth + 1) items)
  | object members => bracketed "\x7b" "\x7d" depth (prettyMembers (depth + 1) members)

def prettyItems (depth : Nat) : List Ordered → List String
  | [] => []
  | item :: rest => pretty depth item :: prettyItems depth rest

def prettyMembers (depth : Nat) : List (String × Ordered) → List String
  | [] => []
  | (key, item) :: rest => (quote key ++ ": " ++ pretty depth item) :: prettyMembers depth rest

end

theorem prettyItems_eq_map (depth : Nat) (items : List Ordered) :
    prettyItems depth items = items.map (pretty depth) := by
  induction items with
  | nil => rfl
  | cons item rest ih => rw [prettyItems, List.map_cons, ih]

theorem prettyMembers_eq_map (depth : Nat) (members : List (String × Ordered)) :
    prettyMembers depth members =
      members.map fun member => quote member.1 ++ ": " ++ member.2.pretty depth := by
  induction members with
  | nil => rfl
  | cons member rest ih => rw [prettyMembers, List.map_cons, ih]

/-! ## Separated texts -/

/-- All texts but the first come with a separator in front. -/
theorem intercalate_cons (separator first : String) (rest : List String) :
    separator.intercalate (first :: rest) = first ++ String.join (rest.map (separator ++ ·)) := by
  induction rest generalizing first with
  | nil => rw [String.intercalate_singleton, List.map_nil, String.join_nil, String.append_empty]
  | cons second rest ih =>
      rw [String.intercalate_cons_cons, ih, List.map_cons, String.join_cons]
      simp only [String.append_assoc]

end Ordered

end RepoSurvey.Json
