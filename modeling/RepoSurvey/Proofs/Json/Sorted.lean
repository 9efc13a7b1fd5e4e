import RepoSurvey.Json.Reader
import RepoSurvey.Proofs.Text.Order

/-!
# Sorted documents

The objects in a document that was read have their members in the order of the keys, each key once.
In which order different members were written makes no difference.
-/

namespace RepoSurvey.Json

section Members

variable {α : Type}

theorem sortMembers_eq (members : List (String × α)) :
    sortMembers members = lastOfEach (sortByName members) := rfl

theorem lastOfEach_sublist (members : List (String × α)) :
    (lastOfEach members).Sublist members := by
  fun_induction lastOfEach members with
  | case1 first second rest same ih => exact .cons first ih
  | case2 first second rest differ ih => exact .cons_cons first ih
  | case3 members => exact .refl members

/-- Of each key one member is left, and the keys are in strict order. -/
theorem lastOfEach_increasing {members : List (String × α)}
    (ordered : members.Pairwise fun left right => ¬ right.1 < left.1) :
    (lastOfEach members).Pairwise fun left right => left.1 < right.1 := by
  fun_induction lastOfEach members with
  | case1 first second rest same ih => exact ih ordered.of_cons
  | case2 first second rest differ ih =>
      obtain ⟨afterFirst, afterSecond⟩ := List.pairwise_cons.1 ordered
      have isLess : first.1 < second.1 :=
        lt_of_ordered (afterFirst second List.mem_cons_self) (by simpa using differ)
      refine List.pairwise_cons.2 ⟨fun member isIn => ?_, ih afterSecond⟩
      have isIn := (lastOfEach_sublist _).subset isIn
      refine lt_of_ordered (afterFirst member isIn) fun same => ?_
      rw [same] at isLess
      obtain rfl | isLater := List.mem_cons.1 isIn
      · exact String.lt_irrefl _ isLess
      · exact (List.pairwise_cons.1 afterSecond).1 member isLater isLess
  | case3 members short =>
      match members with
      | [] => exact .nil
      | [member] => exact List.pairwise_singleton _ _
      | first :: second :: rest => exact (short first second rest rfl).elim

theorem sortMembers_increasing (members : List (String × α)) :
    (sortMembers members).Pairwise fun left right => left.1 < right.1 :=
  lastOfEach_increasing (sortByName_ordered members)

/-- The order of different members does not matter. -/
theorem sortMembers_perm {members others : List (String × α)} (same : members.Perm others)
    (distinct : (members.map Prod.fst).Nodup) : sortMembers members = sortMembers others := by
  have sorted : sortByName members = sortByName others :=
    eq_of_increasing ((sortByName_perm members).trans (same.trans (sortByName_perm others).symm))
      (sortByName_increasing distinct)
      (sortByName_increasing ((same.map Prod.fst).nodup_iff.1 distinct))
  rw [sortMembers_eq, sortMembers_eq, sorted]

theorem lastOfEach_of_increasing {members : List (String × α)}
    (isIncreasing : members.Pairwise fun left right => left.1 < right.1) :
    lastOfEach members = members := by
  fun_induction lastOfEach members with
  | case1 first second rest same ih =>
      have isLess := (List.pairwise_cons.1 isIncreasing).1 second List.mem_cons_self
      rw [eq_of_beq same] at isLess
      exact absurd isLess (String.lt_irrefl _)
  | case2 first second rest differ ih => rw [ih isIncreasing.of_cons]
  | case3 members => rfl

/-- Members that are sorted already stay as they are. -/
theorem sortMembers_of_increasing {members : List (String × α)}
    (isIncreasing : members.Pairwise fun left right => left.1 < right.1) :
    sortMembers members = members := by
  have distinct : (members.map Prod.fst).Nodup := (List.pairwise_map.2 isIncreasing).nodup
  rw [sortMembers_eq,
    eq_of_increasing (sortByName_perm members) (sortByName_increasing distinct) isIncreasing,
    lastOfEach_of_increasing isIncreasing]

theorem mem_of_mem_sortMembers {members : List (String × α)} {member : String × α}
    (isIn : member ∈ sortMembers members) : member ∈ members :=
  mem_sortByName.1 ((lastOfEach_sublist _).subset isIn)

end Members

namespace Value

/-- In every object of a document the keys are in strict order. -/
inductive Sorted : Value → Prop
  | null : Sorted null
  | bool (value : Bool) : Sorted (bool value)
  | number (value : Number) : Sorted (number value)
  | string (value : String) : Sorted (string value)
  | array {items : List Value} (areSorted : ∀ item ∈ items, Sorted item) : Sorted (array items)
  | object {members : List (String × Value)}
      (isIncreasing : members.Pairwise fun left right => left.1 < right.1)
      (areSorted : ∀ member ∈ members, Sorted member.2) : Sorted (object members)

theorem Sorted.ofMembers {members : List (String × Value)}
    (areSorted : ∀ member ∈ members, member.2.Sorted) : (Value.ofMembers members).Sorted :=
  .object (sortMembers_increasing members) fun member isIn =>
    areSorted member (mem_of_mem_sortMembers isIn)

@[elab_as_elim]
theorem induction {motive : Value → Prop} (null : motive null)
    (bool : ∀ value, motive (bool value)) (number : ∀ value, motive (number value))
    (string : ∀ value, motive (string value))
    (array : ∀ items, (∀ item ∈ items, motive item) → motive (array items))
    (object : ∀ members, (∀ key value, (key, value) ∈ members → motive value) →
      motive (object members)) : ∀ value, motive value
  | .null => null
  | .bool value => bool value
  | .number value => number value
  | .string value => string value
  | .array items => array items fun item _ => induction null bool number string array object item
  | .object members => object members fun _ value _ =>
      induction null bool number string array object value
termination_by value => sizeOf value
decreasing_by
  · have := List.sizeOf_lt_of_mem ‹_›
    simp_wf
    omega
  · have := List.sizeOf_lt_of_mem ‹_›
    simp_wf
    simp at this
    omega

end Value

namespace Located

mutual

theorem sorted_of_value : {located : Located} → {value : Value} → located.value = .ok value →
    value.Sorted
  | leaf content _ _, value, isValue => by
      rw [Located.value] at isValue
      cases content with
      | null => cases isValue; exact .null
      | bool => cases isValue; exact .bool _
      | number read =>
          cases read with
          | error => cases isValue
          | ok => cases isValue; exact .number _
      | string read =>
          cases read with
          | error => cases isValue
          | ok => cases isValue; exact .string _
  | array _ items ending, value, isValue => by
      rw [Located.value] at isValue
      split at isValue
      · cases isValue
      · next read itemsRead =>
          cases ending with
          | broken => cases isValue
          | closed => cases isValue; exact .array (sorted_of_values itemsRead)
  | object _ members ending, value, isValue => by
      rw [Located.value] at isValue
      split at isValue
      · cases isValue
      · next read membersRead =>
          cases ending with
          | broken => cases isValue
          | closed => cases isValue; exact .ofMembers (sorted_of_valuesOfMembers membersRead)

theorem sorted_of_values : {items : List Located} → {read : List Value} →
    values items = .ok read → ∀ item ∈ read, item.Sorted
  | [], read, itemsRead => by
      cases itemsRead
      exact List.forall_mem_nil _
  | item :: rest, read, itemsRead => by
      rw [values] at itemsRead
      split at itemsRead
      · cases itemsRead
      · next first firstRead =>
          split at itemsRead
          · cases itemsRead
          · next others othersRead =>
              cases itemsRead
              exact List.forall_mem_cons.2 ⟨sorted_of_value firstRead, sorted_of_values othersRead⟩

theorem sorted_of_valuesOfMembers : {members : List (LocatedKey × Option Located)} →
    {read : List (String × Value)} → valuesOfMembers members = .ok read →
      ∀ member ∈ read, member.2.Sorted
  | [], read, membersRead => by
      cases membersRead
      exact List.forall_mem_nil _
  | (key, none) :: rest, read, membersRead => by
      rw [valuesOfMembers] at membersRead
      split at membersRead
      · cases membersRead
      · cases membersRead
        exact List.forall_mem_nil _
  | (key, some item) :: rest, read, membersRead => by
      rw [valuesOfMembers] at membersRead
      split at membersRead
      · cases membersRead
      · dsimp only at membersRead
        split at membersRead
        · cases membersRead
        · next first firstRead =>
            split at membersRead
            · cases membersRead
            · next others othersRead =>
                cases membersRead
                exact List.forall_mem_cons.2
                  ⟨sorted_of_value firstRead, sorted_of_valuesOfMembers othersRead⟩

end

end Located

/-- What is read from a text is sorted. -/
theorem sorted_of_read {text : String} {document : Value} (isRead : read text = .ok document) :
    document.Sorted := by
  rw [read, LocatedDocument.value] at isRead
  split at isRead
  · cases isRead
  · split at isRead
    · cases isRead
    · next found =>
        split at isRead
        · cases isRead
        · cases isRead
          exact Located.sorted_of_value found

end RepoSurvey.Json
