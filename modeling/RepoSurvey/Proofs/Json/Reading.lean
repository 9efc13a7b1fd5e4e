import RepoSurvey.Json.Decoding
import RepoSurvey.Json.Reader
import RepoSurvey.Proofs.Json.Ordered

/-!
# Reading in order

A reader that keeps the members of objects in the order of the text, with repeated keys.  The document
value that is read from a text is the same without the order.
-/

namespace RepoSurvey.Json

/-! ## Values with order -/

def Leaf.ordered : Leaf → Except ReadError Ordered
  | null => .ok .null
  | bool value => .ok (.bool value)
  | number value => value.map .number
  | string value => value.map .string

theorem Leaf.value_of_ordered {leaf : Leaf} {value : Ordered} (isOrdered : leaf.ordered = .ok value) :
    leaf.value = .ok value.value := by
  cases leaf with
  | null =>
      cases isOrdered
      rfl
  | bool =>
      cases isOrdered
      rfl
  | number number =>
      cases number with
      | error => cases isOrdered
      | ok =>
          cases isOrdered
          rfl
  | string text =>
      cases text with
      | error => cases isOrdered
      | ok =>
          cases isOrdered
          rfl

namespace Located

mutual

/-- The value at a place with its members in the order of the text, or the first fault in it. -/
def ordered : Located → Except ReadError Ordered
  | leaf content _ _ => content.ordered
  | array _ items ending =>
      match orderedItems items with
      | .error error => .error error
      | .ok items =>
          match ending with
          | .closed _ => .ok (.array items)
          | .broken error => .error error
  | object _ members ending =>
      match orderedMembers members with
      | .error error => .error error
      | .ok members =>
          match ending with
          | .closed _ => .ok (.object members)
          | .broken error => .error error

def orderedItems : List Located → Except ReadError (List Ordered)
  | [] => .ok []
  | item :: rest =>
      match item.ordered with
      | .error error => .error error
      | .ok first =>
          match orderedItems rest with
          | .error error => .error error
          | .ok others => .ok (first :: others)

def orderedMembers :
    List (LocatedKey × Option Located) → Except ReadError (List (String × Ordered))
  | [] => .ok []
  | (key, item) :: rest =>
      match key.text with
      | .error error => .error error
      | .ok text =>
          match item with
          | none => .ok []
          | some item =>
              match item.ordered with
              | .error error => .error error
              | .ok first =>
                  match orderedMembers rest with
                  | .error error => .error error
                  | .ok others => .ok ((text, first) :: others)

end

mutual

/-- What is read with its members in order is read without the order as well. -/
theorem value_of_ordered : {located : Located} → {value : Ordered} →
    located.ordered = .ok value → located.value = .ok value.value
  | leaf content _ _, value, isOrdered => by
      rw [ordered] at isOrdered
      rw [Located.value, Leaf.value_of_ordered isOrdered]
  | array _ items ending, value, isOrdered => by
      rw [ordered] at isOrdered
      split at isOrdered
      · cases isOrdered
      · rename_i read itemsRead
        cases ending with
        | broken => cases isOrdered
        | closed =>
            cases isOrdered
            rw [Located.value, values_of_orderedItems itemsRead]
            rfl
  | object _ members ending, value, isOrdered => by
      rw [ordered] at isOrdered
      split at isOrdered
      · cases isOrdered
      · rename_i read membersRead
        cases ending with
        | broken => cases isOrdered
        | closed =>
            cases isOrdered
            rw [Located.value, valuesOfMembers_of_orderedMembers membersRead]
            rfl

theorem values_of_orderedItems : {items : List Located} → {read : List Ordered} →
    orderedItems items = .ok read → values items = .ok (Ordered.valuesOfItems read)
  | [], read, itemsRead => by
      cases itemsRead
      rfl
  | item :: rest, read, itemsRead => by
      rw [orderedItems] at itemsRead
      split at itemsRead
      · cases itemsRead
      · rename_i first firstRead
        split at itemsRead
        · cases itemsRead
        · rename_i others othersRead
          cases itemsRead
          rw [values, value_of_ordered firstRead, values_of_orderedItems othersRead]
          rfl

theorem valuesOfMembers_of_orderedMembers : {members : List (LocatedKey × Option Located)} →
    {read : List (String × Ordered)} → orderedMembers members = .ok read →
      valuesOfMembers members = .ok (Ordered.valuesOfMembers read)
  | [], read, membersRead => by
      cases membersRead
      rfl
  | (key, none) :: rest, read, membersRead => by
      rw [orderedMembers] at membersRead
      split at membersRead
      · cases membersRead
      · rename_i text isText
        cases membersRead
        rw [valuesOfMembers, isText]
        rfl
  | (key, some item) :: rest, read, membersRead => by
      rw [orderedMembers] at membersRead
      split at membersRead
      · cases membersRead
      · rename_i text isText
        dsimp only at membersRead
        split at membersRead
        · cases membersRead
        · rename_i first firstRead
          split at membersRead
          · cases membersRead
          · rename_i others othersRead
            cases membersRead
            rw [valuesOfMembers, isText]
            dsimp only
            rw [value_of_ordered firstRead, valuesOfMembers_of_orderedMembers othersRead]
            rfl

end

end Located

/-! ## Values that were read whole -/

namespace Located

mutual

/-- A value was read without a fault, and this is its document. -/
inductive Shows : Located → Ordered → Prop
  | null (start stop : Spot) : Shows (leaf .null start stop) .null
  | bool (value : Bool) (start stop : Spot) : Shows (leaf (.bool value) start stop) (.bool value)
  | number (value : Number) (start stop : Spot) :
      Shows (leaf (.number (.ok value)) start stop) (.number value)
  | string (text : String) (start stop : Spot) :
      Shows (leaf (.string (.ok text)) start stop) (.string text)
  | array {items : List Located} {values : List Ordered} (start stop : Spot)
      (areShown : ItemsShow items values) :
      Shows (array start items (.closed stop)) (.array values)
  | object {members : List (LocatedKey × Option Located)} {values : List (String × Ordered)}
      (start stop : Spot) (areShown : MembersShow members values) :
      Shows (object start members (.closed stop)) (.object values)

inductive ItemsShow : List Located → List Ordered → Prop
  | nil : ItemsShow [] []
  | cons {item : Located} {rest : List Located} {value : Ordered} {values : List Ordered}
      (isShown : Shows item value) (areShown : ItemsShow rest values) :
      ItemsShow (item :: rest) (value :: values)

inductive MembersShow :
    List (LocatedKey × Option Located) → List (String × Ordered) → Prop
  | nil : MembersShow [] []
  | cons {key : LocatedKey} {item : Located} {rest : List (LocatedKey × Option Located)}
      {text : String} {value : Ordered} {values : List (String × Ordered)}
      (isKey : key.text = .ok text) (isShown : Shows item value)
      (areShown : MembersShow rest values) :
      MembersShow ((key, some item) :: rest) ((text, value) :: values)

end

theorem Shows.of_string {located : Located} {text : String} (isShown : located.Shows (.string text)) :
    ∃ start stop, located = .leaf (.string (.ok text)) start stop := by
  cases isShown with
  | string _ start stop => exact ⟨start, stop, rfl⟩

theorem Shows.of_object {located : Located} {values : List (String × Ordered)}
    (isShown : located.Shows (.object values)) :
    ∃ start stop members, located = .object start members (.closed stop) ∧
      MembersShow members values := by
  cases isShown with
  | object start stop areShown => exact ⟨start, stop, _, rfl, areShown⟩

theorem MembersShow.of_nil {members : List (LocatedKey × Option Located)}
    (areShown : MembersShow members []) : members = [] := by
  cases areShown
  rfl

theorem MembersShow.of_cons {members : List (LocatedKey × Option Located)} {text : String}
    {value : Ordered} {values : List (String × Ordered)}
    (areShown : MembersShow members ((text, value) :: values)) :
    ∃ key item rest, members = (key, some item) :: rest ∧ key.text = .ok text ∧ item.Shows value ∧
      MembersShow rest values := by
  cases areShown with
  | cons isKey isShown areShown => exact ⟨_, _, _, rfl, isKey, isShown, areShown⟩

mutual

theorem Shows.ordered_eq : {located : Located} → {value : Ordered} → located.Shows value →
    located.ordered = .ok value
  | _, _, .null _ _ | _, _, .bool _ _ _ | _, _, .number _ _ _ | _, _, .string _ _ _ => rfl
  | _, _, .array _ _ areShown => by rw [ordered, areShown.ordered_eq]
  | _, _, .object _ _ areShown => by rw [ordered, areShown.ordered_eq]

theorem ItemsShow.ordered_eq : {items : List Located} → {values : List Ordered} →
    ItemsShow items values → orderedItems items = .ok values
  | _, _, .nil => rfl
  | _, _, .cons isShown areShown => by
      rw [orderedItems, isShown.ordered_eq, areShown.ordered_eq]

theorem MembersShow.ordered_eq : {members : List (LocatedKey × Option Located)} →
    {values : List (String × Ordered)} → MembersShow members values →
      orderedMembers members = .ok values
  | _, _, .nil => rfl
  | _, _, .cons isKey isShown areShown => by
      rw [orderedMembers, isKey]
      dsimp only
      rw [isShown.ordered_eq, areShown.ordered_eq]

end

end Located

/-- Reads a text and keeps the order of members. -/
def readOrdered (text : String) : Except ReadError Ordered :=
  (locate text).decode Located.ordered

theorem read_of_readOrdered {text : String} {value : Ordered}
    (isRead : readOrdered text = .ok value) : read text = .ok value.value := by
  rw [readOrdered, LocatedDocument.decode] at isRead
  rw [read, LocatedDocument.value]
  cases root_eq : (locate text).root with
  | none =>
      rw [root_eq] at isRead
      cases isRead
  | some located =>
      rw [root_eq] at isRead
      dsimp only at isRead ⊢
      cases ordered_eq : located.ordered with
      | error =>
          rw [ordered_eq] at isRead
          cases isRead
      | ok whole =>
          rw [ordered_eq] at isRead
          rw [Located.value_of_ordered ordered_eq]
          dsimp only at isRead ⊢
          cases error_eq : (locate text).error with
          | some =>
              rw [error_eq] at isRead
              cases isRead
          | none =>
              rw [error_eq] at isRead
              cases isRead
              rfl

end RepoSurvey.Json
