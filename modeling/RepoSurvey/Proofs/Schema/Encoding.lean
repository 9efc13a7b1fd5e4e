import RepoSurvey.Proofs.Json.Compact
import RepoSurvey.Proofs.Json.Writing
import RepoSurvey.Proofs.Schema.Shape
import RepoSurvey.Schema.Encoding

/-!
# The text of a schema

A schema is written in two ways: as the text of its graph, and as the text of its document.  Both texts are
the same, and the schema is read back from it.
-/

namespace RepoSurvey.SchemaNode

open Json
open RepoSurvey.Graph (setMembers setMembers_of_nodup)

/-- The properties in a schema are in strict order of their keys. -/
inductive Sorted : SchemaNode → Prop
  | node {kind : SchemaKind} {properties : Option (List (String × SchemaNode))}
      {items : Option SchemaNode}
      (areIncreasing : ∀ known ∈ properties, known.Pairwise fun left right => left.1 < right.1)
      (areSorted : ∀ known ∈ properties, ∀ property ∈ known, Sorted property.2)
      (itemsSorted : ∀ known ∈ items, Sorted known) : Sorted (node kind properties items)

/-! ## Both texts are the same -/

/-- Properties in strict order are entered into an object as they stand. -/
theorem setMembers_of_increasing {properties : List (String × SchemaNode)}
    (isIncreasing : properties.Pairwise fun left right => left.1 < right.1) :
    setMembers [] (propertyDocuments properties) = propertyDocuments properties := by
  refine setMembers_of_nodup ?_
  rw [List.nil_append, propertyDocuments_eq_map, List.map_map]
  exact (List.pairwise_map.2 isIncreasing).nodup

theorem orderedMembers_encodeProperties {properties : List (String × SchemaNode)}
    (areSame : ∀ property ∈ properties, property.2.encode.ordered = property.2.document) :
    Value.orderedMembers (encodeProperties properties) = propertyDocuments properties := by
  induction properties with
  | nil => rfl
  | cons property rest ih =>
      obtain ⟨isSame, areSame⟩ := List.forall_mem_cons.1 areSame
      rw [encodeProperties, Value.orderedMembers, isSame, ih areSame, propertyDocuments]

theorem ordered_encode {schema : SchemaNode} (isSorted : schema.Sorted) :
    schema.encode.ordered = schema.document := by
  induction isSorted with
  | @node kind properties items areIncreasing _ _ propertiesSame itemsSame =>
      have entries_eq (known) (isKnown : known ∈ properties) :
          Value.orderedMembers (encodeProperties known) = setMembers [] (propertyDocuments known) := by
        rw [orderedMembers_encodeProperties (propertiesSame known isKnown),
          setMembers_of_increasing (areIncreasing known isKnown)]
      cases properties with
      | none =>
          cases items with
          | none => rfl
          | some items =>
              rw [document, ← itemsSame items rfl]
              rfl
      | some properties =>
          cases items with
          | none =>
              rw [document, ← entries_eq properties rfl]
              rfl
          | some items =>
              rw [document, ← entries_eq properties rfl, ← itemsSame items rfl]
              rfl

theorem textAlone_object (schema : SchemaNode) :
    textAlone schema.object = schema.document.compact :=
  textAlone_eq schema.builds_object fun _ isPlain => isPlain.ordered_eq

/-! ## Reading it back -/

theorem decodeKind_string (kind : SchemaKind) (start stop : Spot) :
    decodeKind (.leaf (.string (.ok kind.name)) start stop) = .ok kind := by
  cases kind <;> rfl

section Fields

variable {fields : Fields} {key : LocatedKey} {member : Located}
  {rest : List (LocatedKey × Option Located)}

theorem decodeFields_kind {kind : SchemaKind} (isKey : key.text = .ok "kind")
    (isNew : fields.kind = none) (isKind : decodeKind member = .ok kind) :
    decodeFields fields ((key, some member) :: rest) =
      decodeFields { fields with kind := some kind } rest := by
  rw [decodeFields, isKey]
  simp [Fields.has, isNew, isKind]

theorem decodeFields_properties {properties : Option (List (String × SchemaNode))}
    (isKey : key.text = .ok "properties") (isNew : fields.properties = none)
    (areProperties : decodeProperties member = .ok properties) :
    decodeFields fields ((key, some member) :: rest) =
      decodeFields { fields with properties := some properties } rest := by
  rw [decodeFields, isKey]
  simp [Fields.has, isNew, areProperties]

theorem decodeFields_items {items : Option SchemaNode} (isKey : key.text = .ok "items")
    (isNew : fields.items = none) (areItems : decodeItems member = .ok items) :
    decodeFields fields ((key, some member) :: rest) =
      decodeFields { fields with items := some items } rest := by
  rw [decodeFields, isKey]
  simp [Fields.has, isNew, areItems]

end Fields

theorem decode_object {start stop : Spot} {members : List (LocatedKey × Option Located)}
    {kind : SchemaKind} (properties : Option (Option (List (String × SchemaNode))))
    (items : Option (Option SchemaNode))
    (areRead : decodeFields {} members = .ok ⟨some kind, properties, items⟩) :
    decode (.object start members (.closed stop)) =
      .ok (node kind (properties.getD none) (items.getD none)) := by
  rw [decode, areRead]

/-- Only the word for nothing is read as no items. -/
theorem decodeItems_of_decode {located : Located} {schema : SchemaNode}
    (isRead : decode located = .ok schema) : decodeItems located = .ok (some schema) := by
  have notLeaf : ∀ start stop, located ≠ .leaf .null start stop := by
    rintro start stop rfl
    rw [decode] at isRead
    cases isRead
  rw [decodeItems, isRead]
  exact notLeaf

theorem decodeMembers_of_shows {properties : List (String × SchemaNode)}
    (areRead : ∀ property ∈ properties, ∀ located : Located,
      located.Shows property.2.document → decode located = .ok property.2)
    {members : List (LocatedKey × Option Located)}
    (areShown : Located.MembersShow members (propertyDocuments properties)) :
    decodeMembers members = .ok properties := by
  induction properties generalizing members with
  | nil => rw [areShown.of_nil, decodeMembers]
  | cons property rest ih =>
      obtain ⟨isRead, areRead⟩ := List.forall_mem_cons.1 areRead
      obtain ⟨key, member, members, rfl, isKey, isShown, areShown⟩ := areShown.of_cons
      rw [decodeMembers, isKey]
      dsimp only
      rw [isRead member isShown, ih areRead areShown]

theorem decodeProperties_of_shows {properties : List (String × SchemaNode)}
    (isIncreasing : properties.Pairwise fun left right => left.1 < right.1)
    (areRead : ∀ property ∈ properties, ∀ located : Located,
      located.Shows property.2.document → decode located = .ok property.2) {located : Located}
    (isShown : located.Shows (.object (setMembers [] (propertyDocuments properties)))) :
    decodeProperties located = .ok (some properties) := by
  rw [setMembers_of_increasing isIncreasing] at isShown
  obtain ⟨start, stop, members, rfl, areShown⟩ := isShown.of_object
  rw [decodeProperties, decodeMembers_of_shows areRead areShown]
  dsimp only
  rw [sortMembers_of_increasing isIncreasing]

/-- The members of a schema that are there are read one after the other. -/
theorem decode_of_parts {kind : SchemaKind} {properties : Option (List (String × SchemaNode))}
    {items : Option SchemaNode}
    (propertiesRead : ∀ known ∈ properties, ∀ located : Located,
      located.Shows (.object (setMembers [] (propertyDocuments known))) →
        decodeProperties located = .ok (some known))
    (itemsRead : ∀ known ∈ items, ∀ located : Located,
      located.Shows known.document → decode located = .ok known) {located : Located}
    (isShown : located.Shows (node kind properties items).document) :
    decode located = .ok (node kind properties items) := by
  rw [document.eq_def] at isShown
  dsimp only [List.cons_append, List.nil_append] at isShown
  obtain ⟨start, stop, members, rfl, membersShown⟩ := isShown.of_object
  obtain ⟨key, member, members, rfl, isKey, kindShown, othersShown⟩ := membersShown.of_cons
  obtain ⟨kindStart, kindStop, rfl⟩ := kindShown.of_string
  have kindRead := decodeKind_string kind kindStart kindStop
  cases properties with
  | none =>
      cases items with
      | none =>
          rw [othersShown.of_nil, decode_object none none]
          · rfl
          · rw [decodeFields_kind isKey rfl kindRead, decodeFields]
      | some items =>
          obtain ⟨itemsKey, member, members, rfl, isItemsKey, itemsShown, restShown⟩ :=
            othersShown.of_cons
          have isItems := decodeItems_of_decode (itemsRead items rfl member itemsShown)
          rw [restShown.of_nil, decode_object none (some (some items))]
          · rfl
          · rw [decodeFields_kind isKey rfl kindRead, decodeFields_items isItemsKey rfl isItems,
              decodeFields]
  | some properties =>
      obtain ⟨propertiesKey, member, members, rfl, isPropertiesKey, propertiesShown, restShown⟩ :=
        othersShown.of_cons
      have areProperties := propertiesRead properties rfl member propertiesShown
      cases items with
      | none =>
          rw [restShown.of_nil, decode_object (some (some properties)) none]
          · rfl
          · rw [decodeFields_kind isKey rfl kindRead,
              decodeFields_properties isPropertiesKey rfl areProperties, decodeFields]
      | some items =>
          obtain ⟨itemsKey, member, members, rfl, isItemsKey, itemsShown, lastShown⟩ :=
            restShown.of_cons
          have isItems := decodeItems_of_decode (itemsRead items rfl member itemsShown)
          rw [lastShown.of_nil,
            decode_object (some (some properties)) (some (some items))]
          · rfl
          · rw [decodeFields_kind isKey rfl kindRead,
              decodeFields_properties isPropertiesKey rfl areProperties,
              decodeFields_items isItemsKey rfl isItems, decodeFields]

/-- A schema is read from any value that shows its document. -/
theorem decode_of_shows {schema : SchemaNode} (isSorted : schema.Sorted) :
    ∀ located : Located, located.Shows schema.document → decode located = .ok schema := by
  induction isSorted with
  | node areIncreasing _ _ areRead itemsRead =>
      intro located isShown
      refine decode_of_parts (fun known isKnown member => ?_) itemsRead isShown
      exact decodeProperties_of_shows (areIncreasing known isKnown) (areRead known isKnown)

/-- The text of a schema is read as that schema. -/
theorem read_compact {schema : SchemaNode} (isSorted : schema.Sorted) :
    read schema.document.compact = .ok schema := by
  have isText := (Ordered.isText schema.document (exact_document schema)).1
  obtain ⟨located, isLocated, isShown⟩ := locate_of_paddedText isText.padded
  rw [read, isLocated, LocatedDocument.decode]
  dsimp only
  rw [decode_of_shows isSorted located isShown]

/-! ## Schemas that are read are sorted -/

/-- The properties of a schema that is sorted. -/
structure PropertiesSorted (properties : List (String × SchemaNode)) : Prop where
  increasing : properties.Pairwise fun left right => left.1 < right.1
  sorted : ∀ property ∈ properties, property.2.Sorted

theorem sorted_of_parts {kind : SchemaKind} {properties : Option (List (String × SchemaNode))}
    {items : Option SchemaNode} (areSorted : ∀ known ∈ properties, PropertiesSorted known)
    (itemsSorted : ∀ known ∈ items, known.Sorted) : (node kind properties items).Sorted :=
  .node (fun known isKnown => (areSorted known isKnown).increasing)
    (fun known isKnown => (areSorted known isKnown).sorted) itemsSorted

theorem sorted_of_kind (kind : SchemaKind) : (node kind none none).Sorted :=
  sorted_of_parts nofun nofun

/-- What has been read of a schema is sorted. -/
structure Fields.AreSorted (fields : Fields) : Prop where
  properties : ∀ known ∈ fields.properties.getD none, PropertiesSorted known
  items : ∀ known ∈ fields.items.getD none, known.Sorted

namespace Fields.AreSorted

variable {fields : Fields}

theorem empty : AreSorted {} where
  properties := nofun
  items := nofun

theorem withKind (areSorted : fields.AreSorted) (kind : SchemaKind) :
    AreSorted { fields with kind := some kind } :=
  ⟨areSorted.properties, areSorted.items⟩

theorem withProperties (areSorted : fields.AreSorted)
    {properties : Option (List (String × SchemaNode))}
    (propertiesSorted : ∀ known ∈ properties, PropertiesSorted known) :
    AreSorted { fields with properties := some properties } :=
  ⟨propertiesSorted, areSorted.items⟩

theorem withItems (areSorted : fields.AreSorted) {items : Option SchemaNode}
    (itemsSorted : ∀ known ∈ items, known.Sorted) :
    AreSorted { fields with items := some items } :=
  ⟨areSorted.properties, itemsSorted⟩

end Fields.AreSorted

theorem finishArray_ok {rest : List Located} {ending : Ending} {value result : SchemaNode}
    (isFinished : finishArray rest ending value = .ok result) : value = result := by
  rw [finishArray.eq_def] at isFinished
  split at isFinished <;> cases isFinished
  rfl

/-- Items are as good as the schema that is read in their place. -/
theorem sorted_of_decodeItems {located : Located} {items : Option SchemaNode}
    (areSorted : ∀ schema, decode located = .ok schema → schema.Sorted)
    (areRead : decodeItems located = .ok items) : ∀ known ∈ items, known.Sorted := by
  rw [decodeItems.eq_def] at areRead
  split at areRead
  · cases areRead
    rintro known ⟨⟩
  · split at areRead
    · cases areRead
    · next schema isRead =>
        cases areRead
        rintro known ⟨⟩
        exact areSorted schema isRead

mutual

theorem sorted_of_decode : {located : Located} → {schema : SchemaNode} →
    decode located = .ok schema → schema.Sorted
  | .leaf content start stop, schema, isRead => by
      rw [decode] at isRead
      cases isRead
  | .array start [] ending, schema, isRead => by
      rw [decode.eq_def] at isRead
      cases ending <;> cases isRead
  | .array start [kind] ending, schema, isRead => by
      rw [decode] at isRead
      dsimp only at isRead
      split at isRead
      · cases isRead
      · rw [← finishArray_ok isRead]
        exact sorted_of_kind _
  | .array start [kind, properties] ending, schema, isRead => by
      rw [decode] at isRead
      dsimp only at isRead
      split at isRead
      · cases isRead
      · split at isRead
        · cases isRead
        · next propertiesRead =>
            rw [← finishArray_ok isRead]
            exact sorted_of_parts (sorted_of_decodeProperties propertiesRead) nofun
  | .array start (kind :: properties :: items :: rest) ending, schema, isRead => by
      rw [decode] at isRead
      dsimp only at isRead
      split at isRead
      · cases isRead
      · split at isRead
        · cases isRead
        · next propertiesRead =>
            split at isRead
            · cases isRead
            · next itemsRead =>
                rw [← finishArray_ok isRead]
                exact sorted_of_parts (sorted_of_decodeProperties propertiesRead)
                  (sorted_of_decodeItems (fun _ => sorted_of_decode) itemsRead)
  | .object start members ending, schema, isRead => by
      rw [decode] at isRead
      split at isRead
      · cases isRead
      · next fields fieldsRead =>
          have areSorted := sorted_of_decodeFields .empty fieldsRead
          split at isRead
          · cases isRead
          · split at isRead <;> cases isRead
            exact sorted_of_parts areSorted.properties areSorted.items

theorem sorted_of_decodeFields : {members : List (LocatedKey × Option Located)} →
    {fields result : Fields} → fields.AreSorted → decodeFields fields members = .ok result →
      result.AreSorted
  | [], fields, result, areSorted, areRead => by
      rw [decodeFields] at areRead
      cases areRead
      exact areSorted
  | (key, none) :: rest, fields, result, areSorted, areRead => by
      rw [decodeFields] at areRead
      split at areRead
      · cases areRead
      · split at areRead <;> cases areRead
        exact areSorted
  | (key, some member) :: rest, fields, result, areSorted, areRead => by
      rw [decodeFields] at areRead
      split at areRead
      · cases areRead
      · split at areRead
        · cases areRead
        · dsimp only at areRead
          split at areRead
          · split at areRead
            · cases areRead
            · exact sorted_of_decodeFields (areSorted.withKind _) areRead
          · split at areRead
            · split at areRead
              · cases areRead
              · next propertiesRead =>
                  have propertiesSorted := sorted_of_decodeProperties propertiesRead
                  exact sorted_of_decodeFields (areSorted.withProperties propertiesSorted) areRead
            · split at areRead
              · split at areRead
                · cases areRead
                · next itemsRead =>
                    have itemsSorted :=
                      sorted_of_decodeItems (fun _ => sorted_of_decode) itemsRead
                    exact sorted_of_decodeFields (areSorted.withItems itemsSorted) areRead
              · split at areRead
                · cases areRead
                · exact sorted_of_decodeFields areSorted areRead

theorem sorted_of_decodeProperties : {located : Located} →
    {properties : Option (List (String × SchemaNode))} →
      decodeProperties located = .ok properties → ∀ known ∈ properties, PropertiesSorted known
  | .leaf content start stop, properties, areRead => by
      rw [decodeProperties.eq_def] at areRead
      cases content <;> cases areRead
      exact nofun
  | .array start items ending, properties, areRead => by
      rw [decodeProperties] at areRead
      cases areRead
  | .object start members ending, properties, areRead => by
      rw [decodeProperties] at areRead
      split at areRead
      · cases areRead
      · next read membersRead =>
          split at areRead <;> cases areRead
          rintro known ⟨⟩
          exact ⟨sortMembers_increasing read, fun property isProperty =>
            sorted_of_decodeMembers membersRead property (mem_of_mem_sortMembers isProperty)⟩

theorem sorted_of_decodeMembers : {members : List (LocatedKey × Option Located)} →
    {properties : List (String × SchemaNode)} → decodeMembers members = .ok properties →
      ∀ property ∈ properties, property.2.Sorted
  | [], properties, areRead => by
      rw [decodeMembers] at areRead
      cases areRead
      exact List.forall_mem_nil _
  | (key, none) :: rest, properties, areRead => by
      rw [decodeMembers] at areRead
      split at areRead <;> cases areRead
      exact List.forall_mem_nil _
  | (key, some member) :: rest, properties, areRead => by
      rw [decodeMembers] at areRead
      split at areRead
      · cases areRead
      · dsimp only at areRead
        split at areRead
        · cases areRead
        · next child childRead =>
            split at areRead
            · cases areRead
            · next others othersRead =>
                cases areRead
                exact List.forall_mem_cons.2
                  ⟨sorted_of_decode childRead, sorted_of_decodeMembers othersRead⟩

end

theorem sorted_of_read {text : String} {schema : SchemaNode} (isRead : read text = .ok schema) :
    schema.Sorted := by
  rw [read, LocatedDocument.decode] at isRead
  split at isRead
  · cases isRead
  · split at isRead
    · cases isRead
    · next found =>
        split at isRead <;> cases isRead
        exact sorted_of_decode found

theorem sorted_ofValue (describesItems : Bool) {document : Value} (isSorted : document.Sorted) :
    (ofValue describesItems document).Sorted := by
  induction isSorted with
  | null | bool | number | string => exact sorted_of_kind _
  | @array items _ ih =>
      cases describesItems with
      | false => exact sorted_of_kind _
      | true =>
          refine sorted_of_parts nofun ?_
          rintro known ⟨⟩
          cases items with
          | nil => exact sorted_of_kind _
          | cons first rest => exact ih first List.mem_cons_self
  | @object members isIncreasing _ ih =>
      refine sorted_of_parts ?_ nofun
      rintro known ⟨⟩
      rw [ofMembers_eq_map]
      refine ⟨List.pairwise_map.2 isIncreasing, fun property isProperty => ?_⟩
      obtain ⟨member, isMember, rfl⟩ := List.mem_map.1 isProperty
      exact ih member isMember

/-- Each schema has one text, whether it is written from its graph or from its document, and the schema is
read back from it.  All schemas that are read, or taken from documents that were read, are sorted. -/
theorem encodings_agree :
    (∀ schema : SchemaNode, schema.Sorted →
      textAlone schema.object = schema.encode.compact ∧
        read schema.encode.compact = .ok schema) ∧
      (∀ text schema, read text = .ok schema → schema.Sorted) ∧
        ∀ describesItems document, document.Sorted → (ofValue describesItems document).Sorted := by
  refine ⟨fun schema isSorted => ?_, fun _ _ => sorted_of_read,
    fun describesItems _ => sorted_ofValue describesItems⟩
  rw [Value.compact_eq, ordered_encode isSorted]
  exact ⟨schema.textAlone_object, read_compact isSorted⟩

/-- A schema with parts that its kind does not ask for: an object without properties among its own, and the
shape of a value that is not there. -/
def decorated : SchemaNode :=
  node .string (some [("", node .object (some []) none), ("\"", node .array none none)])
    (some (node .undefined none none))

theorem encodings_of_decorated_agree :
    decorated.Sorted ∧ textAlone decorated.object = decorated.encode.compact ∧
      read decorated.encode.compact = .ok decorated := by
  have isSorted : decorated.Sorted := by
    refine sorted_of_parts ?_ ?_
    · rintro known ⟨⟩
      refine ⟨by decide, ?_⟩
      simp only [List.forall_mem_cons]
      refine ⟨sorted_of_parts ?_ nofun, sorted_of_kind _, nofun⟩
      rintro known ⟨⟩
      exact ⟨.nil, nofun⟩
    · rintro known ⟨⟩
      exact sorted_of_kind _
  exact ⟨isSorted, encodings_agree.1 decorated isSorted⟩

end RepoSurvey.SchemaNode
