import RepoSurvey.Proofs.Survey.Order
import RepoSurvey.Proofs.Survey.Record

/-!
# Documents of surveys

The document of a survey is made of the documents that its records would have on their own.  The records
share no containers, so it does not matter that all of them are written at once.
-/

namespace RepoSurvey

open RepoSurvey.Graph Unfolding

/-! ## Metadata -/

namespace RepositoryMetadata

def document (metadata : RepositoryMetadata) : Json.Ordered :=
  let text (value : Option String) : Json.Ordered := (value.map .string).getD .null
  .object
    [("name", .string metadata.name), ("description", text metadata.description),
      ("demoLink", text metadata.demoLink)]

theorem builds_object (metadata : RepositoryMetadata) :
    Builds metadata.object (Plain metadata.document) := by
  obtain ⟨name, description, demoLink⟩ := metadata
  cases description <;> cases demoLink <;>
    exact BuildsMembers.object (.scalars (by simp [Value.ofOption]))

end RepositoryMetadata

namespace Aggregate

/-- The value of what is known of a repository. -/
def metadataValue : Option RepositoryMetadata → Build Value
  | some metadata => metadata.object
  | none => pure .null

def metadataDocument (metadata : Option RepositoryMetadata) : Json.Ordered :=
  (metadata.map (·.document)).getD .null

theorem builds_metadataValue : (metadata : Option RepositoryMetadata) →
    Builds (metadataValue metadata) (Plain (metadataDocument metadata))
  | none => fun before =>
      ⟨.scalar .null, rfl, .refl before [], .scalar (by simp), .scalar .null⟩
  | some metadata => metadata.builds_object

/-- The tree of a survey. -/
def IsTree (aggregate : Aggregate) (tree : Unfolding) : Prop :=
  ∃ node metadata files records,
    tree = .full node .object
      (keyed [("metadata", metadata), ("files", .full files .array (listed records))]) ∧
      Plain (metadataDocument aggregate.metadata) metadata ∧
        List.Forall₂ FileRecord.IsTree aggregate.files records

theorem object_eq (aggregate : Aggregate) :
    aggregate.object = (do
      let metadata ← metadataValue aggregate.metadata
      let files ← (do
        let files ← Build.newArray
        aggregate.files.forM fun record => do Build.push files (← record.object)
        return .container files)
      return .container (← Build.object [("metadata", metadata), ("files", files)])) := by
  obtain ⟨metadata, files⟩ := aggregate
  cases metadata <;> rfl

theorem builds_object (aggregate : Aggregate) : Builds aggregate.object aggregate.IsTree := by
  have files := Appends.newArray fun list =>
    Appends.forM FileRecord.builds_object aggregate.files
  have both := (builds_metadataValue aggregate.metadata).pair files
    (show "metadata" ≠ "files" by simp)
  rw [object_eq]
  refine Builds.mono both fun tree isTree => ?_
  obtain ⟨node, part, _, rfl, isMetadata, array, records, rfl, areRecords⟩ := isTree
  rw [List.forall₂_map_left_iff] at areRecords
  exact ⟨node, part, array, records, rfl, isMetadata, areRecords⟩

/-- The tree of the document of a survey. -/
def tree (aggregate : Aggregate) : Unfolding :=
  unfolding (build aggregate.object).2 (build aggregate.object).1

theorem isTree_tree (aggregate : Aggregate) : aggregate.IsTree aggregate.tree :=
  aggregate.builds_object.build

theorem text_eq_compact (aggregate : Aggregate) : aggregate.text = aggregate.tree.ordered.compact :=
  compactText_eq _ _

theorem compact_records {files : List FileRecord} {records : List Unfolding}
    (areRecords : List.Forall₂ FileRecord.IsTree files records) :
    records.map (·.ordered.compact) = files.map fun record => textAlone record.object := by
  induction areRecords with
  | nil => rfl
  | @cons record tree _ _ isTree _ ih =>
      rw [List.map_cons, List.map_cons, ih, isTree.ordered_eq, record.textAlone_object]

/-- The document of a survey is put together from the documents of its parts. -/
theorem text_eq (aggregate : Aggregate) :
    aggregate.text = "\x7b\"metadata\":" ++
      (aggregate.metadata.map fun metadata => textAlone metadata.object).getD "null" ++
        ",\"files\":[" ++
          ",".intercalate (aggregate.files.map fun record => textAlone record.object) ++
            "]\x7d" := by
  obtain ⟨node, metadata, files, records, tree_eq, isMetadata, areRecords⟩ := aggregate.isTree_tree
  have metadata_eq : metadata.ordered.compact =
      (aggregate.metadata.map fun metadata => textAlone metadata.object).getD "null" := by
    rw [isMetadata.ordered_eq]
    cases aggregate.metadata with
    | none => rfl
    | some known => exact (textAlone_eq known.builds_object fun _ isPlain => isPlain.ordered_eq).symm
  have quotes : Json.quote "metadata" = "\"metadata\"" ∧ Json.quote "files" = "\"files\"" := by
    simp [Json.quote, Json.isPlainChar]
  rw [text_eq_compact, tree_eq, ← metadata_eq, ← compact_records areRecords, ordered_object]
  change "\x7b" ++ (Json.quote "metadata" ++ ":" ++ metadata.ordered.compact ++ "," ++
    (Json.quote "files" ++ ":" ++ (Unfolding.full files .array (listed records)).ordered.compact)) ++
      "\x7d" = _
  rw [ordered_array, Json.Ordered.compact, Json.Ordered.compactItems_eq_map, List.map_map, quotes.1,
    quotes.2]
  simp only [String.append_assoc]
  rfl

theorem exists_record {files : List FileRecord} {records : List Unfolding}
    (areRecords : List.Forall₂ FileRecord.IsTree files records) {index : Nat} {tree : Unfolding}
    (isElement : records[index]? = some tree) :
    ∃ record, files[index]? = some record ∧ record.IsTree tree := by
  induction areRecords generalizing index with
  | nil => cases isElement
  | @cons record first _ _ isTree _ ih =>
      cases index with
      | zero =>
          cases isElement
          exact ⟨record, rfl, isTree⟩
      | succ index => exact ih isElement

/-- The position of a record in the document of a survey. -/
def recordAt (index : Nat) (rest : List Step) : List Step :=
  .member "files" :: .element index :: rest

theorem IsTree.repeated_at {aggregate : Aggregate} {tree : Unfolding}
    (isTree : aggregate.IsTree tree) {position : List Step} {node : NodeId}
    (isAt : At tree position (.again node)) :
    ∃ index record dialect source root place, aggregate.files[index]? = some record ∧
      record.outcome = .parsed (.syntaxTree dialect source root) ∧
        position = recordAt index [.member "ast", .member "comments", .element place] := by
  obtain ⟨object, metadata, files, records, rfl, isMetadata, areRecords⟩ := isTree
  obtain ⟨key, part, rest, isMember, rfl, isInside⟩ := isAt.object_cases At.again_ne_full
  simp only [List.mem_cons, Prod.mk.injEq, List.not_mem_nil, or_false] at isMember
  rcases isMember with ⟨rfl, rfl⟩ | ⟨rfl, rfl⟩
  · have isRepeated : part.repeats ≠ [] := List.ne_nil_of_mem (isInside.mem_repeats rfl)
    exact absurd isMetadata.repeats_eq isRepeated
  · obtain ⟨index, shown, further, isElement, rfl, isBelow⟩ :=
      isInside.array_cases At.again_ne_full
    obtain ⟨record, isRecord, recordTree⟩ := exists_record areRecords isElement
    obtain ⟨dialect, source, root, place, outcome_eq, rfl⟩ := recordTree.repeated_at isBelow
    exact ⟨index, record, dialect, source, root, place, isRecord, outcome_eq, rfl⟩

/-- A step to the list of files, and then to a record. -/
theorem IsTree.record_at {aggregate : Aggregate} {tree : Unfolding}
    (isTree : aggregate.IsTree tree) {index : Nat} {rest : List Step} {inner : Unfolding}
    {record : FileRecord} (isRecord : aggregate.files[index]? = some record)
    (isAt : At tree (recordAt index rest) inner) :
    ∃ shown, record.IsTree shown ∧ At shown rest inner ∧
      ∀ position part, At shown position part → At tree (recordAt index position) part := by
  obtain ⟨object, metadata, files, records, rfl, isMetadata, areRecords⟩ := isTree
  have areDifferent : (([("metadata", metadata),
      ("files", .full files .array (listed records))] : List (String × Unfolding)).map
        (·.1)).Nodup := by
    change ["metadata", "files"].Nodup
    decide
  have filesIn : ("files", .full files .array (listed records)) ∈
      [("metadata", metadata), ("files", Unfolding.full files .array (listed records))] := by simp
  cases isAt.of_member areDifferent filesIn with
  | @element _ _ _ _ part _ _ isPart further =>
      have isElement := isPart
      rw [listed, List.getElem?_map] at isElement
      obtain ⟨shown, isElement, same⟩ := Option.map_eq_some_iff.mp isElement
      cases same
      obtain ⟨other, isOther, recordTree⟩ := exists_record areRecords isElement
      rw [isRecord] at isOther
      cases isOther
      exact ⟨part, recordTree, further, fun position part isInside =>
        .member (List.mem_map_of_mem filesIn) (.element isPart isInside)⟩

/-- The document of a survey is written as if each record were written on its own, and only comments of
scripts are repeated. -/
structure RendersAlone (aggregate : Aggregate) : Prop where
  /-- Writing succeeds. -/
  written : (writeGraph .compact (build aggregate.object).2 (build aggregate.object).1).run {} =
    .ok () { text := aggregate.text }
  /-- The text is that of the tree, in which repeated containers are leaves. -/
  text_eq_compact : aggregate.text = aggregate.tree.ordered.compact
  text_eq : aggregate.text = "\x7b\"metadata\":" ++
    (aggregate.metadata.map fun metadata => textAlone metadata.object).getD "null" ++
      ",\"files\":[" ++
        ",".intercalate (aggregate.files.map fun record => textAlone record.object) ++ "]\x7d"
  /-- Only entries of the lists of comments of scripts are repeated. -/
  repeated_at : ∀ position node, At aggregate.tree position (.again node) →
    ∃ index record place, aggregate.files[index]? = some record ∧ record.category = .script ∧
      position = recordAt index [.member "ast", .member "comments", .element place]
  /-- All of these entries are repeated, and what they repeat is shown inside the program. -/
  comment_at : ∀ index record place entry, aggregate.files[index]? = some record →
    record.category = .script →
      At aggregate.tree (recordAt index [.member "ast", .member "comments", .element place]) entry →
        ∃ node, entry = .again node ∧ ∃ step position kind parts,
          At aggregate.tree
              (recordAt index (.member "ast" :: .member "program" :: step :: position))
              (.full node kind parts) ∧
            Script.isComment (Unfolding.full node kind parts).ordered

theorem rendersAlone {aggregate : Aggregate} (suits : ∀ record ∈ aggregate.files, record.Suits) :
    aggregate.RendersAlone where
  written := run_writeGraph_compact _ _
  text_eq_compact := aggregate.text_eq_compact
  text_eq := aggregate.text_eq
  repeated_at position node isAt := by
    obtain ⟨index, record, dialect, source, root, place, isRecord, outcome_eq, position_eq⟩ :=
      aggregate.isTree_tree.repeated_at isAt
    have isSuited := suits record (List.mem_of_getElem? isRecord) _ outcome_eq
    refine ⟨index, record, place, isRecord, ?_, position_eq⟩
    cases category_eq : record.category with
    | script => rfl
    | _ =>
        rw [category_eq] at isSuited
        exact isSuited.elim
  comment_at index record place entry isRecord isScript isAt := by
    obtain ⟨tree, isTree, isInside, leads⟩ := aggregate.isTree_tree.record_at isRecord isAt
    have isSuited := suits record (List.mem_of_getElem? isRecord)
    obtain ⟨dialect, source, root, outcome_eq⟩ := isTree.isSyntaxTree isSuited isScript isInside
    obtain ⟨node, entry_eq, step, position, kind, parts, isShown, isComment⟩ :=
      isTree.comment_at outcome_eq isInside
    exact ⟨node, entry_eq, step, position, kind, parts, leads _ _ isShown, isComment⟩

end Aggregate

open Aggregate in
/-- The document of a survey of a directory or of a repository is put together from the documents that
the metadata and the records would have on their own.  What is repeated in it are the entries of the lists
of comments in the records of scripts, all of them and nothing else, and each stands for a comment that the
program of the same record shows. -/
theorem survey_renders_records_alone {σ : Type} (settings : SurveySettings)
    (languages : Languages) (summarizer : Option (Summarizer (StateM σ)))
    (conditions : Conditions (StateM σ)) :
    (∀ (files : FileOperations (StateM σ)) (root : String) (state : σ) (aggregate : Aggregate),
      ((settings.surveyDirectory languages files summarizer root conditions).run.run state).1 =
          .ok aggregate → aggregate.RendersAlone) ∧
      ∀ (host : RepositoryHost (StateM σ)) (state : σ),
        ((settings.surveyRepository languages host summarizer conditions).run state).1.RendersAlone := by
  have lasting := lasting_suits languages (settings.recordSettings summarizer)
  constructor
  · intro files root state aggregate surveyed
    exact rendersAlone
      (SurveySettings.surveyDirectory_accepts lasting conditions files root state aggregate surveyed)
  · intro host state
    exact rendersAlone (SurveySettings.surveyRepository_accepts lasting conditions host state)

/-! ## A directory with a script and a document -/

/-- The tables of a small language: a name, with comments before and after it. -/
def remarkTable : Parsing.ParseTable where
  symbols := #[⟨"end", false, false⟩, ⟨"name", true, true⟩, ⟨"comment", true, true⟩,
    ⟨"program", true, true⟩]
  tokenCount := 3
  word := none
  entries := #[{}, { actions := [.shift 2 false] }, { actions := [.shiftExtra] },
    { actions := [.reduce 3 1 0 0] }, { actions := [.accept] }]
  cells := #[#[0, 0, 0], #[0, 1, 2], #[3, 0, 2], #[4, 0, 2]]
  gotos := #[#[0], #[3], #[0], #[0]]
  -- Line feeds separate, a slash starts a comment, and anything else is part of a name.
  lexer :=
    { classes :=
        { starts := #[0], classOf := #[0], count := 3
          ascii := ((Array.replicate 128 0).set! 10 1).set! 47 2 }
      states := #[
        { atEnd := some 3, moves := #[some ⟨1, false⟩, some ⟨0, true⟩, some ⟨2, false⟩] },
        { accepts := some (some 1), moves := #[some ⟨1, false⟩, none, none] },
        { accepts := some (some 2), moves := #[some ⟨2, false⟩, none, some ⟨2, false⟩] },
        { accepts := some none, moves := #[none, none, none] }] }
  lexStart := #[0, 0, 0, 0]
  keywordLexer := { classes := default }
  externalSets := #[none, none, none, none]
  externalSymbols := #[]
  infos := #[{}]

def shelfLanguages : Languages where
  script _ := { table := remarkTable }
  markup := { table := remarkTable }
  stylesheet := { table := remarkTable }

def coverText : String := "// a\nx\n// b"

def coverRoot : SyntaxNode :=
  let node (kind : String) (start stop : Place) (children : List SyntaxNode) : SyntaxNode :=
    .node { kind, start, stop } children
  node "program" ⟨0, 0, 0⟩ ⟨11, 2, 4⟩
    [node "comment" ⟨0, 0, 0⟩ ⟨4, 0, 4⟩ [], node "name" ⟨5, 1, 0⟩ ⟨6, 1, 1⟩ [],
      node "comment" ⟨7, 2, 0⟩ ⟨11, 2, 4⟩ []]

theorem parse?_coverText (dialect : Script.Dialect) :
    (shelfLanguages.script dialect).parse? coverText = some coverRoot := by
  change Parsing.Language.parse? { table := remarkTable } coverText = some coverRoot
  decide +kernel

def shelf : FileOperations (StateM Nat) where
  list _ := fun clock =>
    (.ok (.directory [("cover.js", .file 11), ("sizes.json", .file 4)]), clock + 1)
  read path := fun clock =>
    (.ok (if path == "shelf/cover.js" then coverText else "null").toUTF8, clock + 1)
  isDirectory _ := pure true
  makeDirectory _ := throw .alreadyExists
  createTemporary _ := throw .diskFull
  append _ _ := throw .diskFull
  rename _ _ := throw .diskFull
  remove _ := pure ()

def shelfOutcomes : Outcomes String where
  content path := .ok (if path == "shelf/cover.js" then coverText else "null").toUTF8
  lost _ := none
  answer _ := .error "busy"

def shelfAggregate : Aggregate where
  files :=
    [{ path := "cover.js", category := .script
       outcome := .parsed (.syntaxTree (.ofPath "cover.js") coverText coverRoot), sourceSize := 11 },
      { path := "sizes.json", category := .structuredData
        outcome := .parsed (.schema (.leaf .null)), sourceSize := 4 }]

theorem settled_shelf : Settled (SurveySettings.loadFrom shelf) none
    (.calm : Conditions (StateM Nat)) shelfOutcomes where
  load path := by
    have isRead : Yields (shelf.read path).run (· = .ok _) := fun _ => rfl
    exact SurveySettings.loadFrom_yields isRead
  awaitWorker _ _ := rfl
  complete _ same := nomatch same

theorem walk_shelf : Listing.walk .standard "shelf" ((shelf.list "shelf").run.run 0).1 =
    .ok [⟨"shelf/cover.js", "cover.js", 11⟩, ⟨"shelf/sizes.json", "sizes.json", 4⟩] := by
  change (Listing.directory [("cover.js", .file 11), ("sizes.json", .file 4)]).files
    .standard "shelf" [] = _
  rw [Listing.files, inNameOrder, List.mergeSort_of_pairwise]
  · rfl
  · exact List.pairwise_pair.mpr rfl

theorem represent_coverText (describesItems : Bool) :
    shelfLanguages.represent describesItems .script "cover.js" coverText =
      .ok (.parsed (.syntaxTree (.ofPath "cover.js") coverText coverRoot)) := by
  rw [Languages.represent, Languages.soundTree, parse?_coverText]
  rfl

theorem surveyDirectory_shelf :
    ((({} : SurveySettings).surveyDirectory shelfLanguages shelf none "shelf").run.run 0).1 =
      .ok shelfAggregate := by
  have isScript : Category.ofPath "cover.js" = .script := by decide +kernel
  have isJson : Category.ofPath "sizes.json" = .structuredData := by decide +kernel
  have cover_eq : decodeText coverText.toUTF8 = coverText := by decide +kernel
  rw [SurveySettings.surveyDirectory_eq _ _ _ settled_shelf]
  change (Listing.walk .standard "shelf" ((shelf.list "shelf").run.run 0).1).map _ = _
  rw [walk_shelf]
  refine congrArg (fun files => Except.ok (Aggregate.mk none files)) ?_
  refine congrArg₂ (fun first second => [first, second]) ?_ ?_
  · refine shelfOutcomes.record_of_represented coverText.toUTF8 isScript rfl rfl rfl rfl rfl ?_
    rw [cover_eq]
    exact represent_coverText _
  · exact shelfOutcomes.record_of_represented "null".toUTF8 isJson rfl rfl rfl rfl rfl rfl

/-- The documents of both files.  The comments of the script are repeated at its end. -/
def shelfDocuments : List Json.Ordered :=
  [.object
    [("file", .string "cover.js"), ("type", .string "Script"),
      ("ast", .object
        [("type", .string "File"), ("dialect", .string "tsx"),
          ("program", Script.programDocument coverText coverRoot),
          ("comments", .array [.string "[Circular]", .string "[Circular]"])]),
      ("sourceSize", .number (.integer 11))],
    .object
      [("file", .string "sizes.json"), ("type", .string "StructuredData"),
        ("ast", .object [("kind", .string "null")]), ("sourceSize", .number (.integer 4))]]

theorem documents_shelfAggregate : shelfAggregate.files.map (·.document) = shelfDocuments := by
  have isDialect : Script.Dialect.ofPath "cover.js" = .tsx := by decide +kernel
  simp only [shelfAggregate, isDialect]
  rfl

theorem survey_of_shelf_renders_records_alone :
    ((({} : SurveySettings).surveyDirectory shelfLanguages shelf none "shelf").run.run 0).1 =
        .ok shelfAggregate ∧ shelfAggregate.RendersAlone ∧
      shelfAggregate.text = "\x7b\"metadata\":null,\"files\":[" ++
        ",".intercalate (shelfDocuments.map (·.compact)) ++ "]\x7d" := by
  have alone := (survey_renders_records_alone {} shelfLanguages none .calm).1 shelf "shelf" 0 _
    surveyDirectory_shelf
  refine ⟨surveyDirectory_shelf, alone, ?_⟩
  rw [alone.text_eq, ← documents_shelfAggregate, List.map_map]
  simp only [FileRecord.textAlone_object]
  rfl

end RepoSurvey
