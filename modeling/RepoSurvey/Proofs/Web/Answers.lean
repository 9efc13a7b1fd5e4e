import RepoSurvey.Proofs.Web.Shapes
import RepoSurvey.Web.Host

/-!
# What answers tell

Which documents tell what the host was asked for, said of the documents alone.  A structure comes as an object
with its parts or as an array that lists them.  The shapes read these documents and no others.
-/

namespace RepoSurvey

open Json (Located LocatedKey Spot)
open Web

/-! ## What is told about a repository -/

namespace RepositoryAnswer

/-- A document tells about a repository: its name, and what else is known of it. -/
inductive Told : Located → RepositoryAnswer → Prop
  | object {members : List (LocatedKey × Option Located)} {parts : List (String × Located)}
      {answer : RepositoryAnswer} (start stop : Spot) (hasParts : HasParts members parts)
      (name : MemberTells parts "name" TellsText answer.name)
      (description : MayTell parts "description" TellsText answer.description)
      (homepage : MayTell parts "homepage" TellsText answer.homepage)
      (page : MayTell parts "html_url" TellsText answer.page)
      (others : ∀ part ∈ parts, part.1 ∉ ["name", "description", "homepage", "html_url"] →
        part.2.Whole) :
      Told (.object start members (.closed stop)) answer
  | array {name description homepage page : Located} {answer : RepositoryAnswer} (start stop : Spot)
      (isName : TellsText name answer.name)
      (isDescription : OrNull TellsText description answer.description)
      (isHomepage : OrNull TellsText homepage answer.homepage)
      (isPage : OrNull TellsText page answer.page) :
      Told (.array start [name, description, homepage, page] (.closed stop)) answer

theorem distinct_fields : (fields.map (·.name)).Nodup := by decide

open Shape in
theorem textOrNull_reads : text.orNull.Reads (OrNull TellsText) := text_reads.orNull fun _ _ => rfl

section Fields

open Shape

theorem owns_name : Owns fields "name" (·.name) TellsText where
  isField := by decide
  each := by
    simp only [fields, List.forall_mem_cons, String.reduceEq, reduceIte]
    exact ⟨into_sets text_reads fun _ _ => rfl, into_keeps fun _ _ => rfl,
      into_keeps fun _ _ => rfl, into_keeps fun _ _ => rfl, nofun⟩

theorem owns_description : Owns fields "description" (·.description) (OrNull TellsText) where
  isField := by decide
  each := by
    simp only [fields, List.forall_mem_cons, String.reduceEq, reduceIte]
    exact ⟨into_keeps fun _ _ => rfl, into_sets textOrNull_reads fun _ _ => rfl,
      into_keeps fun _ _ => rfl, into_keeps fun _ _ => rfl, nofun⟩

theorem owns_homepage : Owns fields "homepage" (·.homepage) (OrNull TellsText) where
  isField := by decide
  each := by
    simp only [fields, List.forall_mem_cons, String.reduceEq, reduceIte]
    exact ⟨into_keeps fun _ _ => rfl, into_keeps fun _ _ => rfl,
      into_sets textOrNull_reads fun _ _ => rfl, into_keeps fun _ _ => rfl, nofun⟩

theorem owns_page : Owns fields "html_url" (·.page) (OrNull TellsText) where
  isField := by decide
  each := by
    simp only [fields, List.forall_mem_cons, String.reduceEq, reduceIte]
    exact ⟨into_keeps fun _ _ => rfl, into_keeps fun _ _ => rfl,
      into_keeps fun _ _ => rfl, into_sets textOrNull_reads fun _ _ => rfl, nofun⟩

theorem told_of_shape {part : Located} {answer : RepositoryAnswer}
    (isRead : shape part = some answer) : Told part answer := by
  unfold shape at isRead
  cases part with
  | leaf content start stop => cases isRead
  | array start items ending =>
      cases ending with
      | broken error => cases isRead
      | closed stop =>
          rcases items with _ | ⟨name, _ | ⟨description, _ | ⟨homepage, _ | ⟨page, _ | ⟨more, rest⟩⟩⟩⟩⟩
          case cons.cons.cons.cons.nil =>
            obtain ⟨_, nameRead, isRead⟩ := Option.bind_eq_some_iff.mp isRead
            obtain ⟨_, descriptionRead, isRead⟩ := Option.bind_eq_some_iff.mp isRead
            obtain ⟨_, homepageRead, isRead⟩ := Option.bind_eq_some_iff.mp isRead
            obtain ⟨_, pageRead, isRead⟩ := Option.bind_eq_some_iff.mp isRead
            obtain ⟨_, isName, rfl⟩ := (into_eq_some_iff text_reads).mp nameRead
            obtain ⟨_, isDescription, rfl⟩ := (into_eq_some_iff textOrNull_reads).mp descriptionRead
            obtain ⟨_, isHomepage, rfl⟩ := (into_eq_some_iff textOrNull_reads).mp homepageRead
            obtain ⟨_, isPage, rfl⟩ := (into_eq_some_iff textOrNull_reads).mp pageRead
            cases isRead
            exact .array start stop isName isDescription isHomepage isPage
          all_goals simp [assembled, readItems, fields] at isRead
  | object start members ending =>
      cases ending with
      | broken error => cases isRead
      | closed stop =>
          obtain ⟨parts, later, hasParts, reading, areThere⟩ :=
            (assembled_object_eq_some_iff distinct_fields).mp isRead
          have isNamed : "name" ∈ later :=
            (areThere _ List.mem_cons_self).resolve_left Bool.false_ne_true
          exact .object start stop hasParts (reading.required owns_name isNamed)
            (reading.optional owns_description rfl) (reading.optional owns_homepage rfl)
            (reading.optional owns_page rfl) reading.others

theorem shape_of_told {part : Located} {answer : RepositoryAnswer} (isTold : Told part answer) :
    shape part = some answer := by
  cases isTold with
  | @object members parts _ start stop hasParts name description homepage page others =>
      have areReadable : ∀ field ∈ fields, field.Readable parts := by
        intro field isField
        have isKnown := isField
        simp only [fields, List.mem_cons, List.not_mem_nil, or_false] at isKnown
        rcases isKnown with same | same | same | same
        · exact owns_name.readable_of_tells name isField (same ▸ rfl)
        · exact owns_description.readable_of_mayTell description isField (same ▸ rfl)
        · exact owns_homepage.readable_of_mayTell homepage isField (same ▸ rfl)
        · exact owns_page.readable_of_mayTell page isField (same ▸ rfl)
      obtain ⟨later, last, reading⟩ :=
        exists_reading {} areReadable others fun _ _ => List.not_mem_nil
      obtain ⟨isThere, name_eq⟩ := reading.eq_of_tells owns_name text_reads name
      have description_eq :=
        reading.eq_of_mayTell owns_description textOrNull_reads rfl description
      have homepage_eq := reading.eq_of_mayTell owns_homepage textOrNull_reads rfl homepage
      have page_eq := reading.eq_of_mayTell owns_page textOrNull_reads rfl page
      obtain rfl : last = answer := by
        cases last
        cases answer
        simp_all
      refine (assembled_object_eq_some_iff distinct_fields).mpr
        ⟨parts, later, hasParts, reading, ?_⟩
      simp [fields, isThere]
  | array start stop isName isDescription isHomepage isPage =>
      simp only [shape, assembled, fields, readItems, into, (text_reads _ _).mpr isName,
        (textOrNull_reads _ _).mpr isDescription, (textOrNull_reads _ _).mpr isHomepage,
        (textOrNull_reads _ _).mpr isPage]
      rfl

end Fields

/-- The shape reads what documents tell about a repository, and no other document. -/
theorem shape_reads : shape.Reads Told := fun _ _ => ⟨told_of_shape, shape_of_told⟩

/-- A member of an object that may be missing, or null. -/
def MayStand (members : List (String × Json.Ordered)) (key : String) (value : Option String) : Prop :=
  (key ∉ members.map (·.1) ∧ value = none) ∨
    members.filter (·.1 == key) = [(key, value.elim .null .string)]

/-- A text is an object that tells about a repository. What else stands in it does not matter. -/
inductive InText (text : String) (answer : RepositoryAnswer) : Prop
  | object {members : List (String × Json.Ordered)}
      (isText : Json.PaddedText (.object members) text.toList)
      (name : members.filter (·.1 == "name") = [("name", .string answer.name)])
      (description : MayStand members "description" answer.description)
      (homepage : MayStand members "homepage" answer.homepage)
      (page : MayStand members "html_url" answer.page) : InText text answer

theorem documentTells_of_inText {text : String} {answer : RepositoryAnswer}
    (isText : InText text answer) : DocumentTells Told text.toUTF8 answer := by
  cases isText with
  | @object members isText name description homepage page =>
      obtain ⟨located, isLocated, isShown⟩ := Json.locate_of_paddedText isText
      obtain ⟨start, stop, shown, rfl, areShown⟩ := isShown.of_object
      obtain ⟨parts, hasParts, partsShow⟩ := exists_partsShow areShown
      have mayTell {key : String} {value : Option String} (mayStand : MayStand members key value) :
          MayTell parts key TellsText value := by
        rcases mayStand with ⟨isAbsent, isNone⟩ | isAlone
        · exact .inl ⟨partsShow.names_eq ▸ isAbsent, isNone⟩
        · obtain ⟨located, once, isShown⟩ := partsShow.once isAlone
          refine .inr ⟨located, once, ?_⟩
          cases value <;> exact isShown
      refine ⟨_, (locateBytes_toUTF8 text).trans isLocated, ?_⟩
      exact .object start stop hasParts (partsShow.once name) (mayTell description) (mayTell homepage)
        (mayTell page) fun part isPart _ => partsShow.whole part isPart

end RepositoryAnswer

/-! ## What is told about the files -/

namespace ListingEntry

/-- A part of a listing tells about a file or a directory. -/
inductive Told : Located → ListingEntry → Prop
  | object {members : List (LocatedKey × Option Located)} {parts : List (String × Located)}
      {entry : ListingEntry} (start stop : Spot) (hasParts : HasParts members parts)
      (path : MemberTells parts "path" TellsText entry.file.path)
      (kind : MemberTells parts "type" TellsText entry.kind)
      (hash : MemberTells parts "sha" TellsText entry.file.hash)
      (size : MayTell parts "size" TellsNatural entry.file.size)
      (others : ∀ part ∈ parts, part.1 ∉ ["path", "type", "sha", "size"] → part.2.Whole) :
      Told (.object start members (.closed stop)) entry
  | array {path kind hash size : Located} {entry : ListingEntry} (start stop : Spot)
      (isPath : TellsText path entry.file.path) (isKind : TellsText kind entry.kind)
      (isHash : TellsText hash entry.file.hash) (isSize : OrNull TellsNatural size entry.file.size) :
      Told (.array start [path, kind, hash, size] (.closed stop)) entry

/-- A document tells the entries of a listing. It may also tell whether they are all. -/
inductive ListTold : Located → List ListingEntry → Prop
  | object {members : List (LocatedKey × Option Located)} {parts : List (String × Located)}
      {entries : List ListingEntry} (start stop : Spot) (hasParts : HasParts members parts)
      (tree : MemberTells parts "tree" (TellsList Told) entries)
      (truncated : "truncated" ∉ parts.map (·.1) ∨ ∃ value, MemberTells parts "truncated" TellsBool value)
      (others : ∀ part ∈ parts, part.1 ∉ ["tree", "truncated"] → part.2.Whole) :
      ListTold (.object start members (.closed stop)) entries
  | array {tree : Located} {entries : List ListingEntry} (start stop : Spot)
      (isTree : TellsList Told tree entries) : ListTold (.array start [tree] (.closed stop)) entries
  | flagged {tree truncated : Located} {entries : List ListingEntry} (start stop : Spot)
      (isTree : TellsList Told tree entries) {value : Bool} (isFlag : TellsBool truncated value) :
      ListTold (.array start [tree, truncated] (.closed stop)) entries

theorem distinct_fields : (fields.map (·.name)).Nodup := by decide

theorem distinct_listFields : (listFields.map (·.name)).Nodup := by decide

section Fields

open Shape

theorem naturalOrNull_reads : natural.orNull.Reads (OrNull TellsNatural) :=
  natural_reads.orNull fun _ _ => rfl

theorem owns_path : Owns fields "path" (·.file.path) TellsText where
  isField := by decide
  each := by
    simp only [fields, List.forall_mem_cons, String.reduceEq, reduceIte]
    exact ⟨into_sets text_reads fun _ _ => rfl, into_keeps fun _ _ => rfl,
      into_keeps fun _ _ => rfl, into_keeps fun _ _ => rfl, nofun⟩

theorem owns_kind : Owns fields "type" (·.kind) TellsText where
  isField := by decide
  each := by
    simp only [fields, List.forall_mem_cons, String.reduceEq, reduceIte]
    exact ⟨into_keeps fun _ _ => rfl, into_sets text_reads fun _ _ => rfl,
      into_keeps fun _ _ => rfl, into_keeps fun _ _ => rfl, nofun⟩

theorem owns_hash : Owns fields "sha" (·.file.hash) TellsText where
  isField := by decide
  each := by
    simp only [fields, List.forall_mem_cons, String.reduceEq, reduceIte]
    exact ⟨into_keeps fun _ _ => rfl, into_keeps fun _ _ => rfl,
      into_sets text_reads fun _ _ => rfl, into_keeps fun _ _ => rfl, nofun⟩

theorem owns_size : Owns fields "size" (·.file.size) (OrNull TellsNatural) where
  isField := by decide
  each := by
    simp only [fields, List.forall_mem_cons, String.reduceEq, reduceIte]
    exact ⟨into_keeps fun _ _ => rfl, into_keeps fun _ _ => rfl, into_keeps fun _ _ => rfl,
      into_sets naturalOrNull_reads fun _ _ => rfl, nofun⟩

theorem told_of_shape {part : Located} {entry : ListingEntry} (isRead : shape part = some entry) :
    Told part entry := by
  unfold shape at isRead
  cases part with
  | leaf content start stop => cases isRead
  | array start items ending =>
      cases ending with
      | broken error => cases isRead
      | closed stop =>
          rcases items with _ | ⟨path, _ | ⟨kind, _ | ⟨hash, _ | ⟨size, _ | ⟨more, rest⟩⟩⟩⟩⟩
          case cons.cons.cons.cons.nil =>
            obtain ⟨_, pathRead, isRead⟩ := Option.bind_eq_some_iff.mp isRead
            obtain ⟨_, kindRead, isRead⟩ := Option.bind_eq_some_iff.mp isRead
            obtain ⟨_, hashRead, isRead⟩ := Option.bind_eq_some_iff.mp isRead
            obtain ⟨_, sizeRead, isRead⟩ := Option.bind_eq_some_iff.mp isRead
            obtain ⟨_, isPath, rfl⟩ := (into_eq_some_iff text_reads).mp pathRead
            obtain ⟨_, isKind, rfl⟩ := (into_eq_some_iff text_reads).mp kindRead
            obtain ⟨_, isHash, rfl⟩ := (into_eq_some_iff text_reads).mp hashRead
            obtain ⟨_, isSize, rfl⟩ := (into_eq_some_iff naturalOrNull_reads).mp sizeRead
            cases isRead
            exact .array start stop isPath isKind isHash isSize
          all_goals simp [assembled, readItems, fields] at isRead
  | object start members ending =>
      cases ending with
      | broken error => cases isRead
      | closed stop =>
          obtain ⟨parts, later, hasParts, reading, areThere⟩ :=
            (assembled_object_eq_some_iff distinct_fields).mp isRead
          simp only [fields, List.forall_mem_cons, Bool.false_eq_true, false_or, true_or, true_and]
            at areThere
          have path := reading.required owns_path areThere.1
          have kind := reading.required owns_kind areThere.2.1
          have hash := reading.required owns_hash areThere.2.2.1
          have size := reading.optional owns_size rfl
          exact .object start stop hasParts path kind hash size reading.others

theorem shape_of_told {part : Located} {entry : ListingEntry} (isTold : Told part entry) :
    shape part = some entry := by
  cases isTold with
  | @object members parts _ start stop hasParts path kind hash size others =>
      have areReadable : ∀ field ∈ fields, field.Readable parts := by
        intro field isField
        have isKnown := isField
        simp only [fields, List.mem_cons, List.not_mem_nil, or_false] at isKnown
        rcases isKnown with same | same | same | same
        · exact owns_path.readable_of_tells path isField (same ▸ rfl)
        · exact owns_kind.readable_of_tells kind isField (same ▸ rfl)
        · exact owns_hash.readable_of_tells hash isField (same ▸ rfl)
        · exact owns_size.readable_of_mayTell size isField (same ▸ rfl)
      obtain ⟨later, last, reading⟩ :=
        exists_reading {} areReadable others fun _ _ => List.not_mem_nil
      obtain ⟨hasPath, path_eq⟩ := reading.eq_of_tells owns_path text_reads path
      obtain ⟨hasKind, kind_eq⟩ := reading.eq_of_tells owns_kind text_reads kind
      obtain ⟨hasHash, hash_eq⟩ := reading.eq_of_tells owns_hash text_reads hash
      have size_eq := reading.eq_of_mayTell owns_size naturalOrNull_reads rfl size
      obtain rfl : last = entry := by
        obtain ⟨⟨_, _, _⟩, _⟩ := last
        obtain ⟨⟨_, _, _⟩, _⟩ := entry
        simp_all
      refine (assembled_object_eq_some_iff distinct_fields).mpr
        ⟨parts, later, hasParts, reading, ?_⟩
      simp [fields, hasPath, hasKind, hasHash]
  | array start stop isPath isKind isHash isSize =>
      simp only [shape, assembled, fields, readItems, into, (text_reads _ _).mpr isPath,
        (text_reads _ _).mpr isKind, (text_reads _ _).mpr isHash,
        (naturalOrNull_reads _ _).mpr isSize]
      rfl

/-- The shape reads what parts of a listing tell, and no other part. -/
theorem shape_reads : shape.Reads Told := fun _ _ => ⟨told_of_shape, shape_of_told⟩

theorem tree_reads : shape.list.Reads (TellsList Told) := shape_reads.list

theorem owns_tree : Owns listFields "tree" id (TellsList Told) where
  isField := by decide
  each := by
    simp only [listFields, List.forall_mem_cons, String.reduceEq, reduceIte]
    exact ⟨into_sets tree_reads fun _ _ => rfl, into_keeps fun _ _ => rfl, nofun⟩

/-- Whether the entries are all is read, but not kept. -/
theorem owns_truncated : Owns listFields "truncated" (fun _ => ())
    fun located _ => ∃ value, TellsBool located value where
  isField := by decide
  each := by
    simp only [listFields, List.forall_mem_cons, String.reduceEq, reduceIte]
    refine ⟨into_keeps fun _ _ => rfl, ⟨?_, ?_⟩, nofun⟩
    · rintro located _ ⟨value, isTold⟩
      exact ⟨_, (into_eq_some_iff bool_reads).mpr ⟨value, isTold, rfl⟩⟩
    · intro located change whole isRead
      obtain ⟨value, isTold, _⟩ := (into_eq_some_iff bool_reads).mp isRead
      exact ⟨value, isTold⟩

theorem listTold_of_shape {part : Located} {entries : List ListingEntry}
    (isRead : listShape part = some entries) : ListTold part entries := by
  unfold listShape at isRead
  cases part with
  | leaf content start stop => cases isRead
  | array start items ending =>
      cases ending with
      | broken error => cases isRead
      | closed stop =>
          rcases items with _ | ⟨tree, _ | ⟨truncated, _ | ⟨more, rest⟩⟩⟩
          case cons.nil =>
            obtain ⟨_, treeRead, isRead⟩ := Option.bind_eq_some_iff.mp isRead
            obtain ⟨_, isTree, rfl⟩ := (into_eq_some_iff tree_reads).mp treeRead
            cases isRead
            exact .array start stop isTree
          case cons.cons.nil =>
            obtain ⟨_, treeRead, isRead⟩ := Option.bind_eq_some_iff.mp isRead
            obtain ⟨_, flagRead, isRead⟩ := Option.bind_eq_some_iff.mp isRead
            obtain ⟨_, isTree, rfl⟩ := (into_eq_some_iff tree_reads).mp treeRead
            obtain ⟨_, isFlag, rfl⟩ := (into_eq_some_iff bool_reads).mp flagRead
            cases isRead
            exact .flagged start stop isTree isFlag
          all_goals simp [assembled, readItems, listFields] at isRead
  | object start members ending =>
      cases ending with
      | broken error => cases isRead
      | closed stop =>
          obtain ⟨parts, later, hasParts, reading, areThere⟩ :=
            (assembled_object_eq_some_iff distinct_listFields).mp isRead
          have hasTree : "tree" ∈ later :=
            (areThere _ List.mem_cons_self).resolve_left Bool.false_ne_true
          refine .object start stop hasParts (reading.required owns_tree hasTree) ?_ reading.others
          rcases reading.owned owns_truncated List.not_mem_nil with ⟨isAbsent, _, _⟩ | ⟨_, isThere⟩
          · exact .inl isAbsent
          · obtain ⟨located, once, value, isTold⟩ := isThere
            exact .inr ⟨value, located, once, isTold⟩

theorem listShape_of_told {part : Located} {entries : List ListingEntry}
    (isTold : ListTold part entries) : listShape part = some entries := by
  cases isTold with
  | @object members parts _ start stop hasParts tree truncated others =>
      have areReadable : ∀ field ∈ listFields, field.Readable parts := by
        intro field isField
        have isKnown := isField
        simp only [listFields, List.mem_cons, List.not_mem_nil, or_false] at isKnown
        rcases isKnown with same | same
        · exact owns_tree.readable_of_tells tree isField (same ▸ rfl)
        · rcases truncated with isAbsent | ⟨value, located, once, isTold⟩
          · exact .inl (same ▸ isAbsent)
          · have isThere : MemberTells parts "truncated" (fun located _ => ∃ value, TellsBool located value)
                () := ⟨located, once, value, isTold⟩
            exact owns_truncated.readable_of_tells isThere isField (same ▸ rfl)
      obtain ⟨later, last, reading⟩ :=
        exists_reading [] areReadable others fun _ _ => List.not_mem_nil
      obtain ⟨hasTree, rfl⟩ := reading.eq_of_tells owns_tree tree_reads tree
      refine (assembled_object_eq_some_iff distinct_listFields).mpr
        ⟨parts, later, hasParts, reading, ?_⟩
      simp [listFields, hasTree]
  | array start stop isTree =>
      simp only [listShape, assembled, listFields, readItems, into, (tree_reads _ _).mpr isTree]
      rfl
  | flagged start stop isTree isFlag =>
      simp only [listShape, assembled, listFields, readItems, into, (tree_reads _ _).mpr isTree,
        (bool_reads _ _).mpr isFlag]
      rfl

end Fields

/-- The shape reads what documents tell about the files of a repository, and no other document. -/
theorem listShape_reads : listShape.Reads ListTold :=
  fun _ _ => ⟨listTold_of_shape, listShape_of_told⟩

end ListingEntry

end RepoSurvey
