import Mathlib.Data.List.Nodup
import RepoSurvey.Proofs.Json.Completeness
import RepoSurvey.Text.Slices
import RepoSurvey.Web.Shape

/-!
# What shapes read

What the parts of a document tell, said of the document alone, and that shapes read this and nothing else.  The
parts of a structure come as the members of an object, in any order: those that are known at most once, and
others that can be passed over.
-/

namespace RepoSurvey

/-! ## Parts that can be passed over -/

namespace Json.Located

mutual

/-- A part has all its brackets. Texts and numbers in it need not be readable. -/
inductive Whole : Located → Prop
  | leaf (content : Leaf) (start stop : Spot) : Whole (leaf content start stop)
  | array {items : List Located} (start stop : Spot) (areWhole : ItemsWhole items) :
      Whole (array start items (.closed stop))
  | object {members : List (LocatedKey × Option Located)} (start stop : Spot)
      (areWhole : MembersWhole members) : Whole (object start members (.closed stop))

inductive ItemsWhole : List Located → Prop
  | nil : ItemsWhole []
  | cons {item : Located} {rest : List Located} (isWhole : Whole item) (areWhole : ItemsWhole rest) :
      ItemsWhole (item :: rest)

inductive MembersWhole : List (LocatedKey × Option Located) → Prop
  | nil : MembersWhole []
  /-- Reading ended after a key. -/
  | last (key : LocatedKey) (rest : List (LocatedKey × Option Located)) :
      MembersWhole ((key, none) :: rest)
  | cons {key : LocatedKey} {item : Located} {rest : List (LocatedKey × Option Located)}
      (isWhole : Whole item) (areWhole : MembersWhole rest) : MembersWhole ((key, some item) :: rest)

end

mutual

theorem Whole.skip_eq : {located : Located} → located.Whole → located.skip = .ok ()
  | _, .leaf _ _ _ => rfl
  | _, .array _ _ areWhole => by rw [skip, areWhole.skipAll_eq]
  | _, .object _ _ areWhole => by rw [skip, areWhole.skipMembers_eq]

theorem ItemsWhole.skipAll_eq : {items : List Located} → ItemsWhole items → skipAll items = .ok ()
  | _, .nil => rfl
  | _, .cons isWhole areWhole => by rw [skipAll, isWhole.skip_eq, areWhole.skipAll_eq]

theorem MembersWhole.skipMembers_eq : {members : List (LocatedKey × Option Located)} →
    MembersWhole members → skipMembers members = .ok ()
  | _, .nil => rfl
  | _, .last _ _ => rfl
  | _, .cons isWhole areWhole => by
      rw [skipMembers, isWhole.skip_eq, areWhole.skipMembers_eq]

end

mutual

theorem whole_of_skip : {located : Located} → located.skip = .ok () → located.Whole
  | leaf content start stop, _ => .leaf content start stop
  | array start items ending, isSkipped => by
      unfold skip at isSkipped
      split at isSkipped
      · cases isSkipped
      · rename_i areSkipped
        cases ending with
        | broken => cases isSkipped
        | closed stop => exact .array start stop (itemsWhole_of_skipAll areSkipped)
  | object start members ending, isSkipped => by
      unfold skip at isSkipped
      split at isSkipped
      · cases isSkipped
      · rename_i areSkipped
        cases ending with
        | broken => cases isSkipped
        | closed stop => exact .object start stop (membersWhole_of_skipMembers areSkipped)

theorem itemsWhole_of_skipAll : {items : List Located} → skipAll items = .ok () → ItemsWhole items
  | [], _ => .nil
  | item :: rest, areSkipped => by
      rw [skipAll] at areSkipped
      split at areSkipped
      · cases areSkipped
      · rename_i isSkipped
        exact .cons (whole_of_skip isSkipped) (itemsWhole_of_skipAll areSkipped)

theorem membersWhole_of_skipMembers : {members : List (LocatedKey × Option Located)} →
    skipMembers members = .ok () → MembersWhole members
  | [], _ => .nil
  | (key, none) :: rest, _ => .last key rest
  | (key, some item) :: rest, areSkipped => by
      rw [skipMembers] at areSkipped
      split at areSkipped
      · cases areSkipped
      · rename_i isSkipped
        exact .cons (whole_of_skip isSkipped) (membersWhole_of_skipMembers areSkipped)

end

theorem skip_eq_ok_iff {located : Located} : located.skip = .ok () ↔ located.Whole :=
  ⟨whole_of_skip, Whole.skip_eq⟩

mutual

/-- Nothing is missing of a part that was read without a fault. -/
theorem Shows.whole : {located : Located} → {value : Ordered} → located.Shows value → located.Whole
  | _, _, .null start stop => .leaf _ start stop
  | _, _, .bool _ start stop => .leaf _ start stop
  | _, _, .number _ start stop => .leaf _ start stop
  | _, _, .string _ start stop => .leaf _ start stop
  | _, _, .array start stop areShown => .array start stop areShown.whole
  | _, _, .object start stop areShown => .object start stop areShown.whole

theorem ItemsShow.whole : {items : List Located} → {values : List Ordered} →
    ItemsShow items values → ItemsWhole items
  | _, _, .nil => .nil
  | _, _, .cons isShown areShown => .cons isShown.whole areShown.whole

theorem MembersShow.whole : {members : List (LocatedKey × Option Located)} →
    {values : List (String × Ordered)} → MembersShow members values → MembersWhole members
  | _, _, .nil => .nil
  | _, _, .cons _ isShown areShown => .cons isShown.whole areShown.whole

end

end Json.Located

namespace Web

open Json (Located LocatedKey)

/-! ## What parts tell -/

section MemberTells

variable {α β : Type}

def TellsText (part : Located) (text : String) : Prop := part.Shows (.string text)

def TellsBool (part : Located) (value : Bool) : Prop := part.Shows (.bool value)

def TellsNatural (part : Located) (number : Nat) : Prop := part.Shows (.number (.integer number))

/-- A part that may be null instead. -/
def OrNull (tells : Located → α → Prop) (part : Located) : Option α → Prop
  | none => part.Shows .null
  | some value => tells part value

/-- A list of parts. -/
def TellsList (tells : Located → α → Prop) (part : Located) (values : List α) : Prop :=
  ∃ start items stop, part = .array start items (.closed stop) ∧ List.Forall₂ tells items values

namespace Shape

/-- A shape reads what parts tell, and nothing else. -/
def Reads (shape : Shape α) (tells : Located → α → Prop) : Prop :=
  ∀ part value, shape part = some value ↔ tells part value

theorem Reads.unique {shape : Shape α} {tells : Located → α → Prop} (reads : shape.Reads tells)
    {part : Located} {first second : α} (isFirst : tells part first) (isSecond : tells part second) :
    first = second := by
  rw [← reads] at isFirst isSecond
  exact Option.some_inj.mp (isFirst.symm.trans isSecond)

theorem text_reads : text.Reads TellsText := by
  intro part value
  constructor
  · intro isRead
    unfold text at isRead
    split at isRead
    · cases isRead
      exact .string value _ _
    · cases isRead
  · intro isTold
    cases isTold
    rfl

theorem bool_reads : bool.Reads TellsBool := by
  intro part value
  constructor
  · intro isRead
    unfold bool at isRead
    split at isRead
    · cases isRead
      exact .bool value _ _
    · cases isRead
  · intro isTold
    cases isTold
    rfl

theorem natural?_eq_some_iff {number : Json.Number} {value : Nat} :
    number.natural? = some value ↔ number = .integer value := by
  cases number with
  | double => exact iff_of_false nofun nofun
  | integer whole =>
      rw [Json.Number.natural?, Json.Number.integer.injEq]
      split
      · rw [Option.some_inj]
        omega
      · exact iff_of_false nofun (by omega)

theorem natural_reads : natural.Reads TellsNatural := by
  intro part value
  constructor
  · intro isRead
    unfold natural at isRead
    split at isRead
    · rw [natural?_eq_some_iff.mp isRead]
      exact .number _ _ _
    · cases isRead
  · intro isTold
    cases isTold
    exact natural?_eq_some_iff.mpr rfl

theorem Reads.orNull {shape : Shape α} {tells : Located → α → Prop} (reads : shape.Reads tells)
    (notNull : ∀ start stop, shape (.leaf .null start stop) = none) :
    shape.orNull.Reads (OrNull tells) := by
  intro part value
  unfold Shape.orNull
  split
  · rename_i start stop
    cases value with
    | none => exact iff_of_true rfl (.null start stop)
    | some value =>
        refine iff_of_false ?_ fun isTold => ?_
        · intro isSome
          cases isSome
        · rw [OrNull, ← reads, notNull] at isTold
          cases isTold
  · rename_i other
    rw [Option.map_eq_some_iff]
    cases value with
    | none =>
        refine iff_of_false ?_ fun isTold => ?_
        · rintro ⟨_, _, isNull⟩
          cases isNull
        · cases isTold
          exact other _ _ rfl
    | some value =>
        simp only [Option.some_inj, exists_eq_right, OrNull]
        exact reads part value

theorem mapM_eq_some_iff {shape : Shape α} {tells : Located → α → Prop} (reads : shape.Reads tells)
    (items : List Located) (values : List α) :
    items.mapM shape = some values ↔ List.Forall₂ tells items values := by
  induction items generalizing values with
  | nil => simp [eq_comm]
  | cons item rest ih =>
      rw [List.mapM_cons]
      constructor
      · intro isRead
        obtain ⟨first, firstRead, isRead⟩ := Option.bind_eq_some_iff.mp isRead
        obtain ⟨others, othersRead, isWhole⟩ := Option.bind_eq_some_iff.mp isRead
        cases isWhole
        exact .cons ((reads _ _).mp firstRead) ((ih _).mp othersRead)
      · intro areTold
        cases areTold with
        | cons firstTold othersTold =>
            rw [(reads _ _).mpr firstTold, (ih _).mpr othersTold]
            rfl

theorem Reads.list {shape : Shape α} {tells : Located → α → Prop} (reads : shape.Reads tells) :
    shape.list.Reads (TellsList tells) := by
  intro part values
  constructor
  · intro isRead
    unfold Shape.list at isRead
    split at isRead
    · exact ⟨_, _, _, rfl, (mapM_eq_some_iff reads _ _).mp isRead⟩
    · cases isRead
  · rintro ⟨start, items, stop, rfl, areTold⟩
    exact (mapM_eq_some_iff reads _ _).mpr areTold

end Shape

end MemberTells

/-- Some bytes are a whole document, and it tells a value. -/
def DocumentTells {α : Type} (tells : Located → α → Prop) (content : ByteArray) (value : α) : Prop :=
  ∃ root, Json.locateBytes content = ⟨some root, none⟩ ∧ tells root value

theorem locateBytes_toUTF8 (text : String) : Json.locateBytes text.toUTF8 = Json.locate text := by
  rw [Json.locateBytes, fromUTF8?_eq_some_iff.mpr rfl]

theorem Shape.Reads.readBytes_eq_some_iff {α : Type} {shape : Shape α} {tells : Located → α → Prop}
    (reads : shape.Reads tells) {content : ByteArray} {value : α} :
    shape.readBytes content = some value ↔ DocumentTells tells content value := by
  unfold readBytes DocumentTells
  obtain ⟨root, error⟩ := Json.locateBytes content
  cases root with
  | none => exact iff_of_false nofun (by simp)
  | some root =>
      simp only [Option.bind_eq_bind, Option.bind_some, Option.bind_eq_some_iff, reads _ _]
      cases error <;> simp

/-! ## Parts of structures -/

/-- The parts of an object, each with its name. Every key and every value is there. -/
def HasParts (members : List (LocatedKey × Option Located)) (parts : List (String × Located)) : Prop :=
  List.Forall₂ (fun member part => member.1.text = .ok part.1 ∧ member.2 = some part.2) members parts

/-- One part has a name, and it is the only one. -/
def Once (parts : List (String × Located)) (name : String) (located : Located) : Prop :=
  parts.filter (·.1 == name) = [(name, located)]

/-- The parts show the members of an object that was read without a fault. -/
def PartsShow (parts : List (String × Located)) (members : List (String × Json.Ordered)) : Prop :=
  List.Forall₂ (fun part member => part.1 = member.1 ∧ part.2.Shows member.2) parts members

theorem exists_partsShow {located : List (LocatedKey × Option Located)}
    {members : List (String × Json.Ordered)} (areShown : Located.MembersShow located members) :
    ∃ parts, HasParts located parts ∧ PartsShow parts members := by
  induction members generalizing located with
  | nil =>
      obtain rfl := areShown.of_nil
      exact ⟨[], .nil, .nil⟩
  | cons member rest ih =>
      obtain ⟨name, value⟩ := member
      obtain ⟨key, item, others, rfl, isKey, isShown, areShown⟩ := areShown.of_cons
      obtain ⟨parts, hasParts, partsShow⟩ := ih areShown
      exact ⟨(name, item) :: parts, .cons ⟨isKey, rfl⟩ hasParts, .cons ⟨rfl, isShown⟩ partsShow⟩

theorem PartsShow.names_eq {parts : List (String × Located)} {members : List (String × Json.Ordered)}
    (partsShow : PartsShow parts members) : parts.map (·.1) = members.map (·.1) := by
  induction partsShow with
  | nil => rfl
  | cons same _ ih => rw [List.map_cons, List.map_cons, same.1, ih]

theorem PartsShow.whole {parts : List (String × Located)} {members : List (String × Json.Ordered)}
    (partsShow : PartsShow parts members) : ∀ part ∈ parts, part.2.Whole := by
  induction partsShow with
  | nil => exact fun _ isPart => absurd isPart List.not_mem_nil
  | cons same _ ih => exact List.forall_mem_cons.mpr ⟨same.2.whole, ih⟩

section Parts

variable {α β : Type} {parts : List (String × Located)} {name : String}

/-- The only part with a name tells a value. -/
def MemberTells (parts : List (String × Located)) (name : String) (tells : Located → β → Prop) (value : β) :
    Prop :=
  ∃ located, Once parts name located ∧ tells located value

/-- A part that may be missing, or null. -/
def MayTell (parts : List (String × Located)) (name : String) (tells : Located → β → Prop)
    (value : Option β) : Prop :=
  (name ∉ parts.map (·.1) ∧ value = none) ∨ MemberTells parts name (OrNull tells) value

theorem Once.mem {located : Located} (once : Once parts name located) : name ∈ parts.map (·.1) := by
  have isPart : (name, located) ∈ parts.filter (·.1 == name) := once ▸ List.mem_singleton_self _
  exact List.mem_map_of_mem (List.mem_of_mem_filter isPart)

theorem once_cons_self {rest : List (String × Located)} (isAbsent : name ∉ rest.map (·.1))
    (located : Located) : Once ((name, located) :: rest) name located := by
  have noOther : rest.filter (·.1 == name) = [] := by
    refine List.filter_eq_nil_iff.mpr fun part isPart isName => isAbsent ?_
    exact eq_of_beq isName ▸ List.mem_map_of_mem isPart
  rw [Once, List.filter_cons, if_pos (beq_self_eq_true name), noOther]

theorem once_cons_of_ne {other : String} {located first : Located} {rest : List (String × Located)}
    (differs : other ≠ name) : Once ((other, first) :: rest) name located ↔ Once rest name located := by
  rw [Once, List.filter_cons_of_neg (by simpa using differs), Once]

theorem Once.of_cons_self {located first : Located} {rest : List (String × Located)}
    (once : Once ((name, first) :: rest) name located) : first = located ∧ name ∉ rest.map (·.1) := by
  rw [Once, List.filter_cons, if_pos (beq_self_eq_true name)] at once
  obtain ⟨part_eq, noOther⟩ := List.cons_eq_cons.mp once
  refine ⟨congrArg Prod.snd part_eq, fun isName => ?_⟩
  obtain ⟨part, isPart, name_eq⟩ := List.mem_map.mp isName
  exact List.filter_eq_nil_iff.mp noOther part isPart (beq_iff_eq.mpr name_eq)

/-- A member that stands alone in an object is the only part with its name. -/
theorem PartsShow.once {members : List (String × Json.Ordered)} {value : Json.Ordered}
    (partsShow : PartsShow parts members)
    (isAlone : members.filter (·.1 == name) = [(name, value)]) :
    ∃ located, Once parts name located ∧ located.Shows value := by
  have filtered : PartsShow (parts.filter (·.1 == name)) (members.filter (·.1 == name)) := by
    refine List.rel_filter (fun part member same => ?_) partsShow
    change (part.1 == name) = true ↔ (member.1 == name) = true
    rw [same.1]
  rw [isAlone, PartsShow, List.forall₂_cons_right_iff] at filtered
  obtain ⟨⟨_, located⟩, _, ⟨rfl, isShown⟩, noOther, parts_eq⟩ := filtered
  cases noOther
  exact ⟨located, parts_eq, isShown⟩

theorem MemberTells.unique {shape : Shape β} {tells : Located → β → Prop} (reads : shape.Reads tells)
    {first second : β} (isFirst : MemberTells parts name tells first)
    (isSecond : MemberTells parts name tells second) : first = second := by
  obtain ⟨located, once, firstTold⟩ := isFirst
  obtain ⟨other, again, secondTold⟩ := isSecond
  cases once.symm.trans again
  exact reads.unique firstTold secondTold

end Parts

namespace Shape

section Structures

variable {α β : Type}

/-- How the parts of an object are read into a structure. `seen` are the names that have been there. -/
inductive Reading (fields : List (Field α)) :
    List String → α → List (String × Located) → List String → α → Prop
  | done (seen : List String) (value : α) : Reading fields seen value [] seen value
  | known {field : Field α} {located : Located} {change : α → α} {seen later : List String}
      {value last : α} {rest : List (String × Located)} (isField : field ∈ fields)
      (isNew : field.name ∉ seen) (isRead : field.read located = some change)
      (others : Reading fields (field.name :: seen) (change value) rest later last) :
      Reading fields seen value ((field.name, located) :: rest) later last
  | other {name : String} {located : Located} {seen later : List String} {value last : α}
      {rest : List (String × Located)} (notField : name ∉ fields.map (·.name))
      (isWhole : located.Whole) (others : Reading fields seen value rest later last) :
      Reading fields seen value ((name, located) :: rest) later last

variable {fields : List (Field α)} {seen later : List String} {value last : α}
  {members : List (LocatedKey × Option Located)} {parts : List (String × Located)}

theorem toOption_eq_some_iff {ε γ : Type} {result : Except ε γ} {value : γ} :
    result.toOption = some value ↔ result = .ok value := by
  cases result <;> simp [Except.toOption]

theorem find?_name_eq_none_iff {name : String} :
    fields.find? (·.name == name) = none ↔ name ∉ fields.map (·.name) := by
  simp [List.find?_eq_none]

theorem eq_of_name_eq (distinct : (fields.map (·.name)).Nodup) {first second : Field α}
    (isFirst : first ∈ fields) (isSecond : second ∈ fields) (name_eq : first.name = second.name) :
    first = second :=
  List.inj_on_of_nodup_map distinct isFirst isSecond name_eq

theorem find?_name_eq_some (distinct : (fields.map (·.name)).Nodup) {field : Field α}
    (isField : field ∈ fields) : fields.find? (·.name == field.name) = some field := by
  obtain ⟨found, isFound⟩ := Option.ne_none_iff_exists'.mp
    (find?_name_eq_none_iff.not.mpr (not_not.mpr (List.mem_map_of_mem isField)))
  have name_eq : found.name = field.name := by simpa using List.find?_some isFound
  rw [isFound, eq_of_name_eq distinct (List.mem_of_find?_eq_some isFound) isField name_eq]

theorem exists_reading_of_readMembers
    (isRead : readMembers fields seen value members = some (later, last)) :
    ∃ parts, HasParts members parts ∧ Reading fields seen value parts later last := by
  induction members generalizing seen value with
  | nil =>
      cases isRead
      exact ⟨[], .nil, .done _ _⟩
  | cons member rest ih =>
      obtain ⟨key, member⟩ := member
      rw [readMembers] at isRead
      obtain ⟨name, isKey, isRead⟩ := Option.bind_eq_some_iff.mp isRead
      obtain ⟨located, isMember, isRead⟩ := Option.bind_eq_some_iff.mp isRead
      have isPart : key.text = .ok name ∧ member = some located :=
        ⟨toOption_eq_some_iff.mp isKey, isMember⟩
      split at isRead
      · rename_i isOther
        obtain ⟨_, isSkipped, isRead⟩ := Option.bind_eq_some_iff.mp isRead
        obtain ⟨parts, hasParts, reading⟩ := ih isRead
        have isWhole := Located.skip_eq_ok_iff.mp (toOption_eq_some_iff.mp isSkipped)
        exact ⟨(name, located) :: parts, .cons isPart hasParts,
          .other (find?_name_eq_none_iff.mp isOther) isWhole reading⟩
      · rename_i field isField
        obtain rfl : field.name = name := by simpa using List.find?_some isField
        split at isRead
        · cases isRead
        · rename_i isNew
          obtain ⟨change, fieldRead, isRead⟩ := Option.bind_eq_some_iff.mp isRead
          obtain ⟨parts, hasParts, reading⟩ := ih isRead
          rw [List.contains_iff_mem] at isNew
          exact ⟨(field.name, located) :: parts, .cons isPart hasParts,
            .known (List.mem_of_find?_eq_some isField) isNew fieldRead reading⟩

theorem Reading.readMembers_eq (distinct : (fields.map (·.name)).Nodup)
    (reading : Reading fields seen value parts later last) (hasParts : HasParts members parts) :
    readMembers fields seen value members = some (later, last) := by
  induction reading generalizing members with
  | done =>
      cases hasParts
      rfl
  | @known field located change seen _ value _ _ isField isNew isRead _ ih =>
      cases hasParts with
      | @cons member _ _ _ isPart hasParts =>
          obtain ⟨key, member⟩ := member
          obtain ⟨isKey, rfl⟩ := isPart
          dsimp only at isKey
          have notSeen : seen.contains field.name = false := by simpa using isNew
          rw [readMembers, isKey]
          simp only [Except.toOption, Option.bind_eq_bind, Option.bind_some,
            find?_name_eq_some distinct isField, notSeen, isRead]
          exact ih hasParts
  | @other name located _ _ _ _ _ notField isWhole _ ih =>
      cases hasParts with
      | @cons member _ _ _ isPart hasParts =>
          obtain ⟨key, member⟩ := member
          obtain ⟨isKey, rfl⟩ := isPart
          dsimp only at isKey
          rw [readMembers, isKey]
          simp only [Except.toOption, Option.bind_eq_bind, Option.bind_some,
            find?_name_eq_none_iff.mpr notField, isWhole.skip_eq]
          exact ih hasParts

/-- A field sets a part of a structure to what it is told. -/
structure Field.Sets (field : Field α) (part : α → β) (tells : Located → β → Prop) : Prop where
  readable {located : Located} {value : β} : tells located value →
    ∃ change, field.read located = some change
  sets {located : Located} {change : α → α} (whole : α) : field.read located = some change →
    tells located (part (change whole))

/-- A field leaves a part of a structure as it is. -/
def Field.Keeps (field : Field α) (part : α → β) : Prop :=
  ∀ located change whole, field.read located = some change → part (change whole) = part whole

/-- The field with a name sets a part of a structure, and no other field does. -/
structure Owns (fields : List (Field α)) (name : String) (part : α → β)
    (tells : Located → β → Prop) : Prop where
  isField : name ∈ fields.map (·.name)
  each : ∀ field ∈ fields, if field.name = name then field.Sets part tells else field.Keeps part

section Owned

variable {name : String} {part : α → β} {tells : Located → β → Prop}

theorem Owns.sets (owns : Owns fields name part tells) {field : Field α} (isField : field ∈ fields)
    (same : field.name = name) : field.Sets part tells := by
  have sets := owns.each field isField
  rwa [if_pos same] at sets

theorem Owns.keeps (owns : Owns fields name part tells) {field : Field α} (isField : field ∈ fields)
    (differs : field.name ≠ name) : field.Keeps part := by
  have keeps := owns.each field isField
  rwa [if_neg differs] at keeps

theorem into_eq_some_iff {shape : Shape β} (reads : shape.Reads tells) {change : β → α → α}
    {located : Located} {changed : α → α} :
    shape.into change located = some changed ↔ ∃ value, tells located value ∧ change value = changed := by
  rw [into, Option.map_eq_some_iff]
  exact exists_congr fun value => and_congr_left' (reads located value)

theorem into_sets {field : String} {shape : Shape β} {change : β → α → α}
    {isOptional hasDefault : Bool} (reads : shape.Reads tells)
    (sets : ∀ value whole, part (change value whole) = value) :
    Field.Sets ⟨field, shape.into change, isOptional, hasDefault⟩ part tells where
  readable := by
    intro located value isTold
    exact ⟨_, (into_eq_some_iff reads).mpr ⟨value, isTold, rfl⟩⟩
  sets := by
    intro located changed whole isRead
    obtain ⟨value, isTold, rfl⟩ := (into_eq_some_iff reads).mp isRead
    rwa [sets]

theorem into_keeps {γ : Type} {field : String} {shape : Shape γ} {change : γ → α → α}
    {isOptional hasDefault : Bool} (keeps : ∀ value whole, part (change value whole) = part whole) :
    Field.Keeps ⟨field, shape.into change, isOptional, hasDefault⟩ part := by
  intro located changed whole isRead
  obtain ⟨value, _, rfl⟩ := Option.map_eq_some_iff.mp isRead
  exact keeps value whole

/-- A part that has been set stays as it is. -/
theorem Reading.keeps (owns : Owns fields name part tells)
    (reading : Reading fields seen value parts later last) (isOld : name ∈ seen) :
    name ∉ parts.map (·.1) ∧ name ∈ later ∧ part last = part value := by
  induction reading with
  | done => exact ⟨List.not_mem_nil, isOld, rfl⟩
  | @known field located change seen _ value _ rest isField isNew isRead _ ih =>
      have differs : field.name ≠ name := fun same => isNew (same ▸ isOld)
      obtain ⟨isAbsent, isLater, last_eq⟩ := ih (List.mem_cons_of_mem _ isOld)
      rw [List.map_cons, List.mem_cons, not_or]
      exact ⟨⟨differs.symm, isAbsent⟩, isLater,
        last_eq.trans (owns.keeps isField differs _ _ value isRead)⟩
  | @other first _ _ _ _ _ rest notField _ _ ih =>
      have differs : name ≠ first := by
        rintro rfl
        exact notField owns.isField
      obtain ⟨isAbsent, isLater, last_eq⟩ := ih isOld
      rw [List.map_cons, List.mem_cons, not_or]
      exact ⟨⟨differs, isAbsent⟩, isLater, last_eq⟩

/-- A part is what the only member with its name tells; without one it is left alone. -/
theorem Reading.owned (owns : Owns fields name part tells)
    (reading : Reading fields seen value parts later last) (isNew : name ∉ seen) :
    (name ∉ parts.map (·.1) ∧ name ∉ later ∧ part last = part value) ∨
      (name ∈ later ∧ MemberTells parts name tells (part last)) := by
  induction reading with
  | done => exact .inl ⟨List.not_mem_nil, isNew, rfl⟩
  | @known field located change seen _ value _ rest isField _ isRead reading ih =>
      by_cases same : field.name = name
      · obtain rfl := same
        obtain ⟨isAbsent, isLater, last_eq⟩ := reading.keeps owns List.mem_cons_self
        refine .inr ⟨isLater, located, once_cons_self isAbsent located, ?_⟩
        rw [last_eq]
        exact (owns.sets isField rfl).sets value isRead
      · have stillNew : name ∉ field.name :: seen := by
          rw [List.mem_cons, not_or]
          exact ⟨Ne.symm same, isNew⟩
        rcases ih stillNew with ⟨isAbsent, notLater, last_eq⟩ | ⟨isLater, found, once, isTold⟩
        · refine .inl ⟨?_, notLater, last_eq.trans (owns.keeps isField same _ _ value isRead)⟩
          rw [List.map_cons, List.mem_cons, not_or]
          exact ⟨Ne.symm same, isAbsent⟩
        · exact .inr ⟨isLater, found, (once_cons_of_ne same).mpr once, isTold⟩
  | @other first _ _ _ _ _ rest notField _ _ ih =>
      have differs : first ≠ name := by
        rintro rfl
        exact notField owns.isField
      rcases ih isNew with ⟨isAbsent, notLater, last_eq⟩ | ⟨isLater, found, once, isTold⟩
      · refine .inl ⟨?_, notLater, last_eq⟩
        rw [List.map_cons, List.mem_cons, not_or]
        exact ⟨differs.symm, isAbsent⟩
      · exact .inr ⟨isLater, found, (once_cons_of_ne differs).mpr once, isTold⟩

end Owned

theorem Reading.others (reading : Reading fields seen value parts later last) :
    ∀ part ∈ parts, part.1 ∉ fields.map (·.name) → part.2.Whole := by
  induction reading with
  | done => exact fun _ isPart => absurd isPart List.not_mem_nil
  | known isField _ _ _ ih =>
      refine List.forall_mem_cons.mpr ⟨fun notField => ?_, ih⟩
      exact absurd (List.mem_map_of_mem isField) notField
  | other _ isWhole _ ih => exact List.forall_mem_cons.mpr ⟨fun _ => isWhole, ih⟩

/-- A part of an object, if it is there, is there once and can be read. -/
def Field.Readable (field : Field α) (parts : List (String × Located)) : Prop :=
  field.name ∉ parts.map (·.1) ∨
    ∃ located change, Once parts field.name located ∧ field.read located = some change

theorem Field.Readable.of_cons {field : Field α} {name : String} {located : Located}
    {rest : List (String × Located)} (differs : name ≠ field.name)
    (isReadable : field.Readable ((name, located) :: rest)) : field.Readable rest := by
  rcases isReadable with isAbsent | ⟨found, change, once, isRead⟩
  · rw [List.map_cons, List.mem_cons, not_or] at isAbsent
    exact .inl isAbsent.2
  · exact .inr ⟨found, change, (once_cons_of_ne differs).mp once, isRead⟩

/-- If each part can be read, the object can be read. -/
theorem exists_reading (value : α) (areReadable : ∀ field ∈ fields, field.Readable parts)
    (others : ∀ part ∈ parts, part.1 ∉ fields.map (·.name) → part.2.Whole)
    (areNew : ∀ part ∈ parts, part.1 ∉ seen) :
    ∃ later last, Reading fields seen value parts later last := by
  induction parts generalizing seen value with
  | nil => exact ⟨_, _, .done seen value⟩
  | cons first rest ih =>
      obtain ⟨name, located⟩ := first
      rw [List.forall_mem_cons] at others areNew
      by_cases isKnown : name ∈ fields.map (·.name)
      · obtain ⟨field, isField, rfl⟩ := List.mem_map.mp isKnown
        rcases areReadable field isField with isAbsent | ⟨found, change, once, isRead⟩
        · exact absurd List.mem_cons_self isAbsent
        · obtain ⟨rfl, notAgain⟩ := once.of_cons_self
          have restReadable : ∀ other ∈ fields, other.Readable rest := by
            intro other isOther
            by_cases same : field.name = other.name
            · exact .inl (same ▸ notAgain)
            · exact (areReadable other isOther).of_cons same
          have stillNew : ∀ part ∈ rest, part.1 ∉ field.name :: seen := by
            intro part isPart
            rw [List.mem_cons, not_or]
            refine ⟨fun same => notAgain ?_, areNew.2 part isPart⟩
            exact same ▸ List.mem_map_of_mem isPart
          obtain ⟨later, last, reading⟩ := ih (change value) restReadable others.2 stillNew
          exact ⟨later, last, .known isField areNew.1 isRead reading⟩
      · have restReadable : ∀ field ∈ fields, field.Readable rest := by
          intro field isField
          refine (areReadable field isField).of_cons ?_
          rintro rfl
          exact isKnown (List.mem_map_of_mem isField)
        obtain ⟨later, last, reading⟩ := ih value restReadable others.2 areNew.2
        exact ⟨later, last, .other isKnown (others.1 isKnown) reading⟩

theorem assembled_object_eq_some_iff (distinct : (fields.map (·.name)).Nodup) {initial : α}
    {start stop : Json.Spot} :
    assembled fields initial (.object start members (.closed stop)) = some value ↔
      ∃ parts later, HasParts members parts ∧ Reading fields [] initial parts later value ∧
        ∀ field ∈ fields, field.isOptional ∨ field.name ∈ later := by
  have areThere_iff (later : List String) :
      (fields.all fun field => field.isOptional || later.contains field.name) = true ↔
        ∀ field ∈ fields, field.isOptional ∨ field.name ∈ later := by
    simp only [List.all_eq_true, Bool.or_eq_true, List.contains_iff_mem]
  unfold assembled
  constructor
  · intro isRead
    obtain ⟨⟨later, last⟩, membersRead, isRead⟩ := Option.bind_eq_some_iff.mp isRead
    dsimp only at isRead
    split at isRead
    · rename_i areThere
      cases isRead
      obtain ⟨parts, hasParts, reading⟩ := exists_reading_of_readMembers membersRead
      exact ⟨parts, later, hasParts, reading, (areThere_iff later).mp areThere⟩
    · cases isRead
  · rintro ⟨parts, later, hasParts, reading, areThere⟩
    refine Option.bind_eq_some_iff.mpr ⟨_, reading.readMembers_eq distinct hasParts, ?_⟩
    exact if_pos ((areThere_iff later).mpr areThere)

section Told

variable {name : String} {part : α → β} {tells : Located → β → Prop} {initial : α}

theorem Reading.required (owns : Owns fields name part tells)
    (reading : Reading fields [] initial parts later last) (isThere : name ∈ later) :
    MemberTells parts name tells (part last) := by
  rcases reading.owned owns List.not_mem_nil with ⟨_, notThere, _⟩ | ⟨_, isTold⟩
  · exact absurd isThere notThere
  · exact isTold

theorem Reading.eq_of_tells (owns : Owns fields name part tells) {shape : Shape β}
    (reads : shape.Reads tells) (reading : Reading fields [] initial parts later last) {told : β}
    (isTold : MemberTells parts name tells told) : name ∈ later ∧ part last = told := by
  rcases reading.owned owns List.not_mem_nil with ⟨isAbsent, _, _⟩ | ⟨isThere, lastTold⟩
  · obtain ⟨_, once, _⟩ := isTold
    exact absurd once.mem isAbsent
  · exact ⟨isThere, lastTold.unique reads isTold⟩

theorem Owns.readable_of_tells (owns : Owns fields name part tells) {told : β}
    (isTold : MemberTells parts name tells told) {field : Field α} (isField : field ∈ fields)
    (same : field.name = name) : field.Readable parts := by
  obtain ⟨located, once, isTold⟩ := isTold
  obtain ⟨change, isRead⟩ := (owns.sets isField same).readable isTold
  exact .inr ⟨located, change, same ▸ once, isRead⟩

variable {option : α → Option β}

theorem Reading.optional (owns : Owns fields name option (OrNull tells))
    (reading : Reading fields [] initial parts later last) (isNone : option initial = none) :
    MayTell parts name tells (option last) := by
  rcases reading.owned owns List.not_mem_nil with ⟨isAbsent, _, last_eq⟩ | ⟨_, isTold⟩
  · exact .inl ⟨isAbsent, last_eq.trans isNone⟩
  · exact .inr isTold

theorem Reading.eq_of_mayTell (owns : Owns fields name option (OrNull tells))
    {shape : Shape (Option β)} (reads : shape.Reads (OrNull tells))
    (reading : Reading fields [] initial parts later last) (isNone : option initial = none)
    {told : Option β} (mayTell : MayTell parts name tells told) : option last = told := by
  rcases mayTell with ⟨isAbsent, rfl⟩ | isTold
  · rcases reading.owned owns List.not_mem_nil with ⟨_, _, last_eq⟩ | ⟨_, _, once, _⟩
    · exact last_eq.trans isNone
    · exact absurd once.mem isAbsent
  · exact (reading.eq_of_tells owns reads isTold).2

theorem Owns.readable_of_mayTell (owns : Owns fields name option (OrNull tells)) {told : Option β}
    (mayTell : MayTell parts name tells told) {field : Field α} (isField : field ∈ fields)
    (same : field.name = name) : field.Readable parts := by
  rcases mayTell with ⟨isAbsent, _⟩ | isTold
  · exact .inl (same ▸ isAbsent)
  · exact owns.readable_of_tells isTold isField same

end Told

end Structures

end Shape

end Web

end RepoSurvey
