import Mathlib.Data.List.Forall2
import RepoSurvey.Proofs.Graph.RoundTrip
import RepoSurvey.Proofs.Schema.Examples
import RepoSurvey.Proofs.Schema.Graph

/-!
# Shapes

The text of the schema of a document tells the shape of the document and nothing else.  The shape of
an object is told by its keys and the shapes of its members, whatever the keys are.
-/

namespace RepoSurvey

/-- Two documents have the same shape. Arrays have when their first items have, or, if items are not
described, in any case. -/
inductive SameShape (describesItems : Bool) : Json.Value → Json.Value → Prop
  | null : SameShape describesItems .null .null
  | bool (value other : Bool) : SameShape describesItems (.bool value) (.bool other)
  | number (value other : Json.Number) : SameShape describesItems (.number value) (.number other)
  | string (value other : String) : SameShape describesItems (.string value) (.string other)
  | array (items others : List Json.Value) (isOff : describesItems = false) :
      SameShape describesItems (.array items) (.array others)
  | emptyArray : SameShape describesItems (.array []) (.array [])
  | firstItem {first other : Json.Value} (rest others : List Json.Value)
      (same : SameShape describesItems first other) :
      SameShape describesItems (.array (first :: rest)) (.array (other :: others))
  | object {members others : List (String × Json.Value)}
      (sameKeys : ∀ key, key ∈ members.map Prod.fst ↔ key ∈ others.map Prod.fst)
      (same : ∀ key value other, (key, value) ∈ members → (key, other) ∈ others →
        SameShape describesItems value other) :
      SameShape describesItems (.object members) (.object others)

/-! ## Members in order -/

section Members

variable {α : Type} {members others : List (String × α)} {related : α → α → Prop}

/-- Members have the same keys in the same order, and related values. -/
def MembersMatch (related : α → α → Prop) (members others : List (String × α)) : Prop :=
  List.Forall₂ (fun member other => member.1 = other.1 ∧ related member.2 other.2) members others

theorem membersMatch_of_keys_eq (sameKeys : members.map Prod.fst = others.map Prod.fst)
    (areRelated : ∀ key value other, (key, value) ∈ members → (key, other) ∈ others →
      related value other) : MembersMatch related members others := by
  induction members generalizing others with
  | nil =>
      obtain rfl := List.map_eq_nil_iff.1 sameKeys.symm
      exact .nil
  | cons member rest ih =>
      match others with
      | (key, value) :: others =>
          obtain ⟨rfl, restKeys⟩ := List.cons.inj sameKeys
          have isRelated := areRelated member.1 member.2 value List.mem_cons_self List.mem_cons_self
          refine .cons ⟨rfl, isRelated⟩ (ih restKeys fun key value other isIn isOther => ?_)
          exact areRelated key value other (List.mem_cons_of_mem _ isIn)
            (List.mem_cons_of_mem _ isOther)

theorem MembersMatch.keys_eq (areMatched : MembersMatch related members others) :
    members.map Prod.fst = others.map Prod.fst := by
  induction areMatched with
  | nil => rfl
  | cons isMatch _ ih => rw [List.map_cons, List.map_cons, isMatch.1, ih]

theorem MembersMatch.of_mem (areMatched : MembersMatch related members others)
    (distinct : (members.map Prod.fst).Nodup) {key : String} {value other : α}
    (isIn : (key, value) ∈ members) (isOther : (key, other) ∈ others) : related value other := by
  induction areMatched with
  | nil => cases isIn
  | cons isMatch rest ih =>
      obtain ⟨isNew, distinct⟩ := List.nodup_cons.1 distinct
      obtain rfl | isIn := List.mem_cons.1 isIn <;> obtain rfl | isOther := List.mem_cons.1 isOther
      · exact isMatch.2
      · refine absurd ?_ isNew
        rw [MembersMatch.keys_eq rest]
        exact List.mem_map.2 ⟨_, isOther, rfl⟩
      · refine absurd ?_ isNew
        rw [isMatch.1]
        exact List.mem_map.2 ⟨_, isIn, rfl⟩
      · exact ih distinct isIn isOther

/-- Members in strict order are shown alike when they have the same keys and, key by key, values
that are shown alike. -/
theorem map_eq_map_iff {β : Type} (shown : α → β)
    (isIncreasing : members.Pairwise fun left right => left.1 < right.1)
    (areIncreasing : others.Pairwise fun left right => left.1 < right.1) :
    members.map (fun member => (member.1, shown member.2)) =
        others.map (fun member => (member.1, shown member.2)) ↔
      (∀ key, key ∈ members.map Prod.fst ↔ key ∈ others.map Prod.fst) ∧
        ∀ key value other, (key, value) ∈ members → (key, other) ∈ others →
          shown value = shown other := by
  have areShown :
      members.map (fun member => (member.1, shown member.2)) =
          others.map (fun member => (member.1, shown member.2)) ↔
        MembersMatch (fun value other => shown value = shown other) members others := by
    rw [MembersMatch, ← List.forall₂_eq_eq_eq, List.forall₂_map_left_iff,
      List.forall₂_map_right_iff]
    simp only [Prod.mk.injEq]
  have keysIncreasing := List.pairwise_map.2 isIncreasing
  rw [areShown]
  constructor
  · intro areMatched
    refine ⟨fun key => by rw [areMatched.keys_eq], fun key value other => ?_⟩
    exact areMatched.of_mem keysIncreasing.nodup
  · rintro ⟨sameKeys, areAlike⟩
    refine membersMatch_of_keys_eq ?_ areAlike
    exact keysIncreasing.eq_of_mem_iff (List.pairwise_map.2 areIncreasing) sameKeys

end Members

theorem SchemaKind.name_injective {kind other : SchemaKind} (same : kind.name = other.name) :
    kind = other := by
  cases kind <;> cases other <;> first | rfl | simp [name] at same

namespace SchemaNode

open Json (Value Ordered)
open RepoSurvey.Graph (setMembers setMembers_of_nodup setMembers_subperm)

theorem propertyDocuments_ofMembers (describesItems : Bool) (members : List (String × Value)) :
    propertyDocuments (ofMembers describesItems members) =
      members.map fun member => (member.1, (ofValue describesItems member.2).document) := by
  rw [propertyDocuments_eq_map, ofMembers_eq_map, List.map_map]
  rfl

/-- The document of the properties of an object, which are in strict order already. -/
theorem setMembers_propertyDocuments (describesItems : Bool) {members : List (String × Value)}
    (isIncreasing : members.Pairwise fun left right => left.1 < right.1) :
    setMembers [] (propertyDocuments (ofMembers describesItems members)) =
      members.map fun member => (member.1, (ofValue describesItems member.2).document) := by
  rw [propertyDocuments_ofMembers]
  refine setMembers_of_nodup ?_
  rw [List.nil_append, List.map_map]
  exact (List.pairwise_map.2 isIncreasing).nodup

theorem document_ofValue_object (describesItems : Bool) {members : List (String × Value)}
    (isIncreasing : members.Pairwise fun left right => left.1 < right.1) :
    (ofValue describesItems (.object members)).document =
      .object [("kind", .string "object"), ("properties", .object
        (members.map fun member => (member.1, (ofValue describesItems member.2).document)))] := by
  rw [ofValue, document, setMembers_propertyDocuments describesItems isIncreasing]
  rfl

/-- The document of a schema starts with its kind. -/
theorem document_starts_with_kind (schema : SchemaNode) :
    ∃ rest, schema.document = .object (("kind", .string schema.kind.name) :: rest) := by
  obtain ⟨kind, properties, items⟩ := schema
  cases properties <;> cases items <;> exact ⟨_, rfl⟩

theorem kind_eq_of_document_eq {first second : SchemaNode}
    (same : first.document = second.document) : first.kind = second.kind := by
  obtain ⟨rest, first_eq⟩ := first.document_starts_with_kind
  obtain ⟨others, second_eq⟩ := second.document_starts_with_kind
  rw [first_eq, second_eq] at same
  simp only [Ordered.object.injEq, List.cons.injEq, Prod.mk.injEq, Ordered.string.injEq] at same
  exact SchemaKind.name_injective same.1.2

theorem kind_ofValue_ne_undefined (describesItems : Bool) (value : Value) :
    (ofValue describesItems value).kind ≠ .undefined := by
  cases value <;> nofun

/-- The documents of described arrays are equal when those of their first items are. -/
theorem document_ofValue_array_eq_iff (items others : List Value) :
    (ofValue true (.array items)).document = (ofValue true (.array others)).document ↔
      (ofFirst true items).document = (ofFirst true others).document := by
  have described (items : List Value) : (ofValue true (.array items)).document =
      .object [("kind", .string "array"), ("items", (ofFirst true items).document)] := rfl
  rw [described, described]
  simp only [Ordered.object.injEq, List.cons.injEq, Prod.mk.injEq, and_true, true_and]

/-- The documents of the schemas of two documents are equal exactly when those have the same shape. -/
theorem document_eq_iff (describesItems : Bool) (first : Value) :
    ∀ second, first.Sorted → second.Sorted →
      ((ofValue describesItems first).document = (ofValue describesItems second).document ↔
        SameShape describesItems first second) := by
  -- The kind in a document tells values of different sorts apart, so each case is about values of one sort.
  induction first using Value.induction with
  | null =>
      intro second _ _
      cases second with
      | null => exact iff_of_true rfl .null
      | _ => exact iff_of_false (fun same => nomatch kind_eq_of_document_eq same) nofun
  | bool value =>
      intro second _ _
      cases second with
      | bool other => exact iff_of_true rfl (.bool value other)
      | _ => exact iff_of_false (fun same => nomatch kind_eq_of_document_eq same) nofun
  | number value =>
      intro second _ _
      cases second with
      | number other => exact iff_of_true rfl (.number value other)
      | _ => exact iff_of_false (fun same => nomatch kind_eq_of_document_eq same) nofun
  | string value =>
      intro second _ _
      cases second with
      | string other => exact iff_of_true rfl (.string value other)
      | _ => exact iff_of_false (fun same => nomatch kind_eq_of_document_eq same) nofun
  | array items ih =>
      rintro second isSorted otherSorted
      cases isSorted with | array areSorted =>
      cases otherSorted with
      | @array others othersSorted =>
          cases describesItems with
          | false => exact iff_of_true rfl (.array items others rfl)
          | true =>
              rw [document_ofValue_array_eq_iff]
              match items, others with
              | [], [] => exact iff_of_true rfl .emptyArray
              | [], other :: _ =>
                  refine iff_of_false (fun same => ?_) nofun
                  exact kind_ofValue_ne_undefined true other (kind_eq_of_document_eq same).symm
              | first :: _, [] =>
                  refine iff_of_false (fun same => ?_) nofun
                  exact kind_ofValue_ne_undefined true first (kind_eq_of_document_eq same)
              | first :: rest, other :: others =>
                  refine (ih first List.mem_cons_self other (areSorted _ List.mem_cons_self)
                    (othersSorted _ List.mem_cons_self)).trans ⟨.firstItem rest others, ?_⟩
                  intro same
                  cases same with
                  | array _ _ isOff => cases isOff
                  | firstItem _ _ same => exact same
      | _ => exact iff_of_false (fun same => nomatch kind_eq_of_document_eq same) nofun
  | object members ih =>
      rintro second isSorted otherSorted
      cases isSorted with | object isIncreasing areSorted =>
      cases otherSorted with
      | @object others othersIncreasing othersSorted =>
          rw [document_ofValue_object describesItems isIncreasing,
            document_ofValue_object describesItems othersIncreasing]
          simp only [Ordered.object.injEq, List.cons.injEq, Prod.mk.injEq, and_true, true_and]
          rw [map_eq_map_iff (fun value => (ofValue describesItems value).document) isIncreasing
            othersIncreasing]
          constructor
          · rintro ⟨sameKeys, same⟩
            refine .object sameKeys fun key value other isIn isOther => ?_
            exact (ih key value isIn other (areSorted _ isIn) (othersSorted _ isOther)).1
              (same key value other isIn isOther)
          · intro same
            cases same with | object sameKeys same =>
            refine ⟨sameKeys, fun key value other isIn isOther => ?_⟩
            exact (ih key value isIn other (areSorted _ isIn) (othersSorted _ isOther)).2
              (same key value other isIn isOther)
      | _ => exact iff_of_false (fun same => nomatch kind_eq_of_document_eq same) nofun

/-! ## Whole documents -/

theorem rootDocument_ofValue_object (describesItems : Bool) {members : List (String × Value)}
    (isIncreasing : members.Pairwise fun left right => left.1 < right.1) :
    (ofValue describesItems (.object members)).rootDocument =
      .object (members.map fun member => (member.1, (ofValue describesItems member.2).document)) :=
  congrArg Ordered.object (setMembers_propertyDocuments describesItems isIncreasing)

/-- The members of the document of an object are objects, so no kind is mistaken for one of them. -/
theorem rootDocument_object_ne_document (describesItems : Bool) {members : List (String × Value)}
    (isIncreasing : members.Pairwise fun left right => left.1 < right.1) (schema : SchemaNode) :
    (ofValue describesItems (.object members)).rootDocument ≠ schema.document := by
  rw [rootDocument_ofValue_object describesItems isIncreasing]
  obtain ⟨rest, schema_eq⟩ := schema.document_starts_with_kind
  rw [schema_eq]
  cases members with
  | nil => nofun
  | cons member members =>
      obtain ⟨_, member_eq⟩ := (ofValue describesItems member.2).document_starts_with_kind
      rw [List.map_cons, member_eq]
      simp

theorem rootDocument_eq_iff (describesItems : Bool) {first second : Value}
    (firstSorted : first.Sorted) (secondSorted : second.Sorted) :
    (ofValue describesItems first).rootDocument = (ofValue describesItems second).rootDocument ↔
      SameShape describesItems first second := by
  have plain := document_eq_iff describesItems first second firstSorted secondSorted
  cases firstSorted with
  | object isIncreasing areSorted =>
      cases secondSorted with
      | object othersIncreasing othersSorted =>
          rw [document_ofValue_object describesItems isIncreasing,
            document_ofValue_object describesItems othersIncreasing] at plain
          rw [rootDocument_ofValue_object describesItems isIncreasing,
            rootDocument_ofValue_object describesItems othersIncreasing, ← plain]
          simp only [Ordered.object.injEq, List.cons.injEq, Prod.mk.injEq, and_true, true_and]
      | _ =>
          exact iff_of_false (rootDocument_object_ne_document describesItems isIncreasing _) nofun
  | _ =>
      cases secondSorted with
      | object othersIncreasing othersSorted =>
          exact iff_of_false
            (rootDocument_object_ne_document describesItems othersIncreasing _).symm nofun
      | _ => exact plain

theorem membersExact_iff {members : List (String × Ordered)} :
    Ordered.MembersExact members ↔ ∀ member ∈ members, member.2.Exact := by
  induction members with
  | nil => exact iff_of_true trivial (List.forall_mem_nil _)
  | cons member rest ih => rw [Ordered.MembersExact, ih, List.forall_mem_cons]

theorem exact_setMembers {members : List (String × Ordered)}
    (areExact : ∀ member ∈ members, member.2.Exact) :
    (Ordered.object (setMembers [] members)).Exact :=
  membersExact_iff.2 fun member isIn =>
    areExact member ((setMembers_subperm [] members).subset isIn)

mutual

/-- There are no numbers in the document of a schema. -/
theorem exact_document : (schema : SchemaNode) → schema.document.Exact
  | node _ none none => ⟨trivial, trivial⟩
  | node _ none (some items) => ⟨trivial, exact_document items, trivial⟩
  | node _ (some properties) none =>
      ⟨trivial, exact_setMembers (exact_propertyDocuments properties), trivial⟩
  | node _ (some properties) (some items) =>
      ⟨trivial, exact_setMembers (exact_propertyDocuments properties), exact_document items,
        trivial⟩

theorem exact_propertyDocuments : (properties : List (String × SchemaNode)) →
    ∀ member ∈ propertyDocuments properties, member.2.Exact
  | [] => List.forall_mem_nil _
  | (_, child) :: rest =>
      List.forall_mem_cons.2 ⟨exact_document child, exact_propertyDocuments rest⟩

end

theorem exact_rootDocument (schema : SchemaNode) : schema.rootDocument.Exact := by
  obtain ⟨kind, properties, items⟩ := schema
  cases kind with
  | object =>
      cases properties with
      | none => trivial
      | some properties => exact exact_setMembers (exact_propertyDocuments properties)
  | _ => exact exact_document _

theorem textAlone_documentObject (schema : SchemaNode) :
    textAlone schema.documentObject = schema.rootDocument.compact :=
  textAlone_eq schema.builds_documentObject fun _ isPlain => isPlain.ordered_eq

/-- The texts of the schemas of two documents are equal exactly when the documents have the same
shape. All documents that are read are sorted, in whatever order their members were written. -/
theorem texts_tell_shapes (describesItems : Bool) :
    (∀ first second : Value, first.Sorted → second.Sorted →
      (textAlone (ofValue describesItems first).documentObject =
          textAlone (ofValue describesItems second).documentObject ↔
        SameShape describesItems first second)) ∧
      (∀ text document, Json.read text = .ok document → document.Sorted) ∧
        ∀ members others : List (String × Value), members.Perm others →
          (members.map Prod.fst).Nodup → Value.ofMembers members = Value.ofMembers others := by
  refine ⟨fun first second firstSorted secondSorted => ?_, fun _ _ => Json.sorted_of_read,
    fun _ _ same distinct => congrArg Value.object (Json.sortMembers_perm same distinct)⟩
  rw [textAlone_documentObject, textAlone_documentObject,
    ← rootDocument_eq_iff describesItems firstSorted secondSorted]
  exact ⟨Ordered.eq_of_compact_eq (exact_rootDocument _) (exact_rootDocument _),
    congrArg Ordered.compact⟩

/-- Documents with the keys that schemas have. -/
def labelled : Value := .object [("items", .array [.natural 1, .null]), ("kind", .string "array")]

def relabelled : Value := .object [("items", .array [.natural 2]), ("kind", .string "")]

theorem texts_of_labelled_tell_shapes :
    labelled.Sorted ∧ relabelled.Sorted ∧
      textAlone (ofValue true labelled).documentObject =
        textAlone (ofValue true relabelled).documentObject ∧
      textAlone (ofValue true labelled).documentObject ≠
        textAlone (ofValue true (.array [])).documentObject := by
  have labelledSorted : labelled.Sorted := by
    refine .object (by decide) ?_
    simp only [List.forall_mem_cons]
    refine ⟨.array ?_, .string _, nofun⟩
    simp only [List.forall_mem_cons]
    exact ⟨.number _, .null, nofun⟩
  have relabelledSorted : relabelled.Sorted := by
    refine .object (by decide) ?_
    simp only [List.forall_mem_cons]
    refine ⟨.array ?_, .string _, nofun⟩
    rw [List.forall_mem_singleton]
    exact .number _
  have sameShape : SameShape true labelled relabelled := by
    refine .object (fun key => Iff.rfl) fun key value other isIn isOther => ?_
    simp only [List.mem_cons, Prod.mk.injEq, List.not_mem_nil, or_false] at isIn isOther
    rcases isIn with ⟨rfl, rfl⟩ | ⟨rfl, rfl⟩ <;> rcases isOther with ⟨differ, rfl⟩ | ⟨differ, rfl⟩
    · exact .firstItem _ _ (.number _ _)
    · exact absurd differ (by decide)
    · exact absurd differ (by decide)
    · exact .string _ _
  have tells := (texts_tell_shapes true).1 labelled
  have emptySorted : (Value.array []).Sorted := .array (List.forall_mem_nil _)
  exact ⟨labelledSorted, relabelledSorted,
    (tells relabelled labelledSorted relabelledSorted).2 sameShape,
    fun same => nomatch (tells (.array []) labelledSorted emptySorted).1 same⟩

end SchemaNode
end RepoSurvey
