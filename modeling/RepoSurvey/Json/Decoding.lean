import RepoSurvey.Json.Located
import RepoSurvey.Text.Shown

/-!
# Reading documents of a known shape

What goes wrong when a document is not the one that was asked for, and where.
-/

namespace RepoSurvey.Json

def mismatch (message : String) (spot : Spot) : ReadError := ⟨.mismatch message, spot⟩

/-- What a number is called when it was not asked for. -/
def Number.described : Number → String
  | integer value => "integer `" ++ toString value ++ "`"
  | double value => "floating point `" ++ value.text ++ "`"

/-- What a value without parts is called when it was not asked for. -/
def Leaf.described : Leaf → Except ReadError String
  | null => .ok "null"
  | bool value => .ok ("boolean `" ++ toString value ++ "`")
  | number value => value.map (·.described)
  | string value => value.map fun text => "string " ++ shown text

def invalidType (found expected : String) (spot : Spot) : ReadError :=
  mismatch ("invalid type: " ++ found ++ ", expected " ++ expected) spot

/-- A value without parts stands where `expected` was asked for. It has been read to its end. -/
def unexpectedLeaf (content : Leaf) (stop : Spot) (expected : String) : ReadError :=
  match content.described with
  | .error error => error
  | .ok found => invalidType found expected stop

def unexpectedSequence (start : Spot) (expected : String) : ReadError :=
  invalidType "sequence" expected start

def unexpectedMap (start : Spot) (expected : String) : ReadError :=
  invalidType "map" expected start

/-- Any value stands where `expected` was asked for. -/
def unexpected (located : Located) (expected : String) : ReadError :=
  match located with
  | .leaf content _ stop => unexpectedLeaf content stop expected
  | .array start _ _ => unexpectedSequence start expected
  | .object start _ _ => unexpectedMap start expected

def invalidLength (length : Nat) (expected : String) (spot : Spot) : ReadError :=
  mismatch ("invalid length " ++ toString length ++ ", expected " ++ expected) spot

def missingField (name : String) (spot : Spot) : ReadError :=
  mismatch ("missing field `" ++ name ++ "`") spot

def duplicateField (name : String) (spot : Spot) : ReadError :=
  mismatch ("duplicate field `" ++ name ++ "`") spot

def unknownVariant (name : String) (names : List String) (spot : Spot) : ReadError :=
  let choices := ", ".intercalate (names.map fun name => "`" ++ name ++ "`")
  mismatch ("unknown variant `" ++ name ++ "`, expected one of " ++ choices) spot

/-- Where a value starts. -/
def Located.start : Located → Spot
  | leaf _ start _ => start
  | array start _ _ => start
  | object start _ _ => start

/-- The place after the first byte of a value. -/
def Located.afterFirstByte (located : Located) : Spot :=
  ⟨located.start.line, located.start.column + 1⟩

/-- The end of an array all of whose wanted elements have been read. -/
def finishArray {α : Type} (rest : List Located) (ending : Ending) (value : α) :
    Except ReadError α :=
  match rest, ending with
  | [], .closed _ => .ok value
  | [], .broken error => .error error
  | next :: _, _ => .error ⟨.textAfterEnd, next.afterFirstByte⟩

/-- Reads one of several named choices: its name, or an object with the name and null. -/
def decodeChoice {α : Type} (choices : List (String × α))
    (located : Located) : Except ReadError α :=
  let choose (name : String) (spot : Spot) : Except ReadError α :=
    match choices.lookup name with
    | some choice => .ok choice
    | none => .error (unknownVariant name (choices.map (·.1)) spot)
  match located with
  | .leaf (.string text) _ stop =>
      match text with
      | .ok name => choose name stop
      | .error error => .error error
  | .object _ [] (.closed stop) => .error ⟨.noValue, stop⟩
  | .object _ [] (.broken error) => .error error
  | .object _ ((key, member) :: rest) ending =>
      match key.text with
      | .error error => .error error
      | .ok name =>
          match choose name key.stop, member, rest, ending with
          | .error error, _, _, _ => .error error
          | .ok choice, some (.leaf .null _ _), [], .closed _ => .ok choice
          | .ok _, some (.leaf .null _ stop), _ :: _, _ => .error ⟨.noValue, stop⟩
          | .ok _, some other, _, _ => .error (unexpected other "unit")
          | .ok _, none, _, .broken error => .error error
          | .ok _, none, _, .closed stop => .error ⟨.noValue, stop⟩
  | other => .error ⟨.noValue, other.afterFirstByte⟩

namespace Located

mutual

/-- Passes over a value. Only what makes it impossible to find its end counts as a fault. -/
def skip : Located → Except ReadError Unit
  | leaf _ _ _ => .ok ()
  | array _ items ending =>
      match skipAll items with
      | .error error => .error error
      | .ok _ =>
          match ending with
          | .closed _ => .ok ()
          | .broken error => .error error
  | object _ members ending =>
      match skipMembers members with
      | .error error => .error error
      | .ok _ =>
          match ending with
          | .closed _ => .ok ()
          | .broken error => .error error

def skipAll : List Located → Except ReadError Unit
  | [] => .ok ()
  | item :: rest =>
      match skip item with
      | .error error => .error error
      | .ok _ => skipAll rest

def skipMembers : List (LocatedKey × Option Located) → Except ReadError Unit
  | [] => .ok ()
  | (_, item) :: rest =>
      match item with
      | none => .ok ()
      | some item =>
          match skip item with
          | .error error => .error error
          | .ok _ => skipMembers rest

end

end Located

/-- Reads the value of a whole text. -/
def LocatedDocument.decode {α : Type} (decoder : Located → Except ReadError α)
    (document : LocatedDocument) : Except ReadError α :=
  match document.root with
  | none => .error (document.error.getD ⟨.endInValue, {}⟩)
  | some root =>
      match decoder root with
      | .error error => .error error
      | .ok value =>
          match document.error with
          | some error => .error error
          | none => .ok value

end RepoSurvey.Json
