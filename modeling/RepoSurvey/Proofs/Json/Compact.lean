import RepoSurvey.Proofs.Json.Ordered

/-!
# Writing piece by piece

A document is written by a loop over the pieces that are left.  The loop writes what plain recursion over
the document writes, however deep the document is.
-/

namespace RepoSurvey.Json.Value

mutual

/-- The document with the members of its objects in the order in which they stand. -/
def ordered : Value → Ordered
  | null => .null
  | bool value => .bool value
  | number value => .number value
  | string value => .string value
  | array items => .array (orderedItems items)
  | object members => .object (orderedMembers members)

def orderedItems : List Value → List Ordered
  | [] => []
  | item :: rest => ordered item :: orderedItems rest

def orderedMembers : List (String × Value) → List (String × Ordered)
  | [] => []
  | (key, item) :: rest => (key, ordered item) :: orderedMembers rest

end

/-- The text of a piece. -/
def Pending.text : Pending → String
  | whole value => value.ordered.compact
  | mark text => text

/-- The text of all that is left. -/
def textOf (pending : List Pending) : String := String.join (pending.map Pending.text)

@[simp] theorem textOf_nil : textOf [] = "" := rfl

@[simp] theorem textOf_cons (first : Pending) (rest : List Pending) :
    textOf (first :: rest) = first.text ++ textOf rest := by
  rw [textOf, List.map_cons, String.join_cons, textOf]

@[simp] theorem textOf_append (left right : List Pending) :
    textOf (left ++ right) = textOf left ++ textOf right := by
  induction left with
  | nil => rw [List.nil_append, textOf_nil, String.empty_append]
  | cons first rest ih => rw [List.cons_append, textOf_cons, ih, textOf_cons, String.append_assoc]

theorem textOf_pendingItems (items : List Value) :
    textOf (pendingItems items) = ",".intercalate (Ordered.compactItems (orderedItems items)) := by
  induction items using pendingItems.induct with
  | case1 => rfl
  | case2 only =>
      rw [pendingItems, textOf_cons, textOf_nil, String.append_empty]
      rfl
  | case3 first rest isMore ih =>
      obtain ⟨second, rest, rfl⟩ := List.exists_cons_of_ne_nil isMore
      have pending_eq : pendingItems (first :: second :: rest) =
        .whole first :: .mark "," :: pendingItems (second :: rest) := rfl
      rw [pending_eq, textOf_cons, textOf_cons, ih]
      simp only [orderedItems, Ordered.compactItems, String.intercalate_cons_cons, Pending.text,
        String.append_assoc]

theorem textOf_pendingMembers (members : List (String × Value)) :
    textOf (pendingMembers members) =
      ",".intercalate (Ordered.compactMembers (orderedMembers members)) := by
  induction members using pendingMembers.induct with
  | case1 => rfl
  | case2 key only =>
      rw [pendingMembers, textOf_cons, textOf_cons, textOf_nil, String.append_empty]
      rfl
  | case3 key first rest isMore ih =>
      obtain ⟨second, rest, rfl⟩ := List.exists_cons_of_ne_nil isMore
      have pending_eq : pendingMembers ((key, first) :: second :: rest) =
        .mark (quote key ++ ":") :: .whole first :: .mark "," ::
          pendingMembers (second :: rest) := rfl
      rw [pending_eq, textOf_cons, textOf_cons, textOf_cons, ih]
      simp only [orderedMembers, Ordered.compactMembers, String.intercalate_cons_cons, Pending.text,
        String.append_assoc]

/-- A container is put into the list in pieces, which say together what it says whole. -/
theorem writePending_eq (written : String) (pending : List Pending) :
    writePending written pending = written ++ textOf pending := by
  fun_induction writePending written pending with
  | case1 written => rw [textOf_nil, String.append_empty]
  | case2 written _ _ ih | case3 written _ ih | case4 written _ _ ih | case5 written _ _ ih
  | case6 written _ _ ih =>
      rw [ih, textOf_cons, String.append_assoc]
      rfl
  | case7 written rest items ih =>
      rw [ih, textOf_append, textOf_cons, textOf_cons, textOf_pendingItems]
      simp only [Pending.text, ordered, Ordered.compact, String.append_assoc]
  | case8 written rest members ih =>
      rw [ih, textOf_append, textOf_cons, textOf_cons, textOf_pendingMembers]
      simp only [Pending.text, ordered, Ordered.compact, String.append_assoc]

theorem compact_eq (value : Value) : value.compact = value.ordered.compact := by
  rw [compact, writePending_eq, textOf_cons, textOf_nil, String.append_empty, String.empty_append]
  rfl

end RepoSurvey.Json.Value
