import RepoSurvey.Proofs.Graph.Rebuilding
import RepoSurvey.Proofs.Graph.References
import RepoSurvey.Proofs.Json.Completeness
import RepoSurvey.Proofs.Json.Writing

/-!
# Reading what was written of a graph

Both texts of a graph stand for its unfolding and for nothing else, so every reader of the grammar finds
the same document in both of them.
-/

namespace RepoSurvey.Json

/-- A text stands for one document at most. -/
theorem PaddedText.unique {first second : Ordered} {text : List Char}
    (isFirst : PaddedText first text) (isSecond : PaddedText second text) : first = second := by
  have readFirst : readOrdered (String.ofList text) = .ok first :=
    readOrdered_of_paddedText (by rwa [String.toList_ofList])
  have readSecond : readOrdered (String.ofList text) = .ok second :=
    readOrdered_of_paddedText (by rwa [String.toList_ofList])
  rw [readFirst] at readSecond
  exact Except.ok.inj readSecond

theorem ValueText.padded {value : Ordered} {text : List Char} (isValue : ValueText value text) :
    PaddedText value text := by
  have noBlanks : Blanks [] := List.forall_mem_nil _
  have isPadded := PaddedText.padded noBlanks isValue noBlanks
  rwa [List.append_nil, List.nil_append] at isPadded

/-- Documents with the same text are equal. -/
theorem Ordered.eq_of_compact_eq {first second : Ordered} (firstExact : first.Exact)
    (secondExact : second.Exact) (same : first.compact = second.compact) : first = second := by
  have isFirst := (isText first firstExact).1.padded
  rw [same] at isFirst
  exact isFirst.unique (isText second secondExact).1.padded

end RepoSurvey.Json

namespace RepoSurvey.Graph

/-- A value is no number, or an integer that is kept exactly. -/
def Value.IsExact : Value → Prop
  | number value => value.IsExact
  | _ => True

/-- The only numbers in a graph are integers that are kept exactly. -/
structure ExactGraph (store : Store) (root : Value) : Prop where
  root_isExact : root.IsExact
  values_areExact : ∀ node container, Reachable store root node →
    store.container? node = some container → ∀ value ∈ container.values, value.IsExact

namespace Unfolding

variable {store : Store}

mutual

theorem exact_ordered : (tree : Unfolding) → tree.Fits store → tree.value.IsExact →
    (∀ node ∈ tree.nodes, ∀ container, store.container? node = some container →
      ∀ value ∈ container.values, value.IsExact) → tree.ordered.Exact
  | scalar value, _, isExact, _ => by
      cases value with
      | number => exact isExact
      | _ => trivial
  | again _, _, _, _ => trivial
  | full node kind parts, ⟨container, found, _, parts_eq, partsFit⟩, _, areExact => by
      rw [nodes_full, List.forall_mem_cons] at areExact
      obtain ⟨hereExact, restExact⟩ := areExact
      have valuesExact : ∀ part ∈ parts, part.2.value.IsExact := by
        intro part isPart
        refine hereExact container found part.2.value ?_
        rw [Container.values_eq, parts_eq, values, List.map_map]
        exact List.mem_map_of_mem isPart
      have partsExact := exact_orderedParts parts partsFit valuesExact restExact
      cases kind with
      | array => exact partsExact.1
      | object => exact partsExact.2

theorem exact_orderedParts : (parts : List (Option String × Unfolding)) → PartsFit store parts →
    (∀ part ∈ parts, part.2.value.IsExact) →
      (∀ node ∈ nodesOf parts, ∀ container, store.container? node = some container →
        ∀ value ∈ container.values, value.IsExact) →
        Json.Ordered.ItemsExact (orderedItems parts) ∧
          Json.Ordered.MembersExact (orderedMembers parts)
  | [], _, _, _ => ⟨trivial, trivial⟩
  | (key, part) :: rest, ⟨fits, restFits⟩, valuesExact, areExact => by
      rw [List.forall_mem_cons] at valuesExact
      rw [nodesOf_cons, List.forall_mem_append] at areExact
      have first := exact_ordered part fits valuesExact.1 areExact.1
      obtain ⟨items, members⟩ := exact_orderedParts rest restFits valuesExact.2 areExact.2
      exact ⟨⟨first, items⟩, ⟨first, members⟩⟩

end

end Unfolding

theorem ExactGraph.exact_unfolding {store : Store} {root : Value} (isExact : ExactGraph store root) :
    (unfolding store root).ordered.Exact := by
  have isTree := unfolding_isTree store root
  refine Unfolding.exact_ordered _ isTree.fits ?_ ?_
  · rw [isTree.value_eq]
    exact isExact.root_isExact
  · intro node isIn container found
    exact isExact.values_areExact node container (mem_nodes_unfolding_iff.mp isIn) found

/-- Both texts of a graph are texts of the grammar.  They stand for the unfolding of the graph and for
no other document, a reader that keeps the order of members finds it, and what the reader without order
finds is the document that the graph is rebuilt as. -/
theorem texts_stand_for_unfolding (store : Store) (root : Value)
    (isExact : ExactGraph store root) :
    ∀ text ∈ [compactText store root, prettyText store root],
      (∀ document, Json.PaddedText document text.toList ↔
        document = (unfolding store root).ordered) ∧
        Json.readOrdered text = .ok (unfolding store root).ordered ∧
          Json.read text = .ok (document store root) := by
  obtain ⟨isCompact, isPretty⟩ := Json.Ordered.isText _ isExact.exact_unfolding
  intro text isOne
  have isText : Json.PaddedText (unfolding store root).ordered text.toList := by
    rw [List.mem_pair] at isOne
    rcases isOne with rfl | rfl
    · rw [compactText_eq]
      exact isCompact.padded
    · rw [prettyText_eq]
      exact (isPretty 0).padded
  have isRead := Json.readOrdered_of_paddedText isText
  refine ⟨fun document => ⟨fun isOther => isOther.unique isText, ?_⟩, isRead, ?_⟩
  · rintro rfl
    exact isText
  · rw [document_eq]
    exact Json.read_of_readOrdered isRead

/-- An object that contains itself, and an array twice. -/
def knot : Store :=
  ⟨#[.object #[("self", .container 0), ("list", .container 1), ("a \"key\"\n", .container 1)],
    .array #[.number (.integer (-7)), .null, .string "\\"]]⟩

theorem exactGraph_knot : ExactGraph knot (.container 0) where
  root_isExact := trivial
  values_areExact := by
    intro node container _ found value isIn
    match node, found with
    | 0, found =>
        cases found
        have isIn : value ∈ [Value.container 0, .container 1, .container 1] := isIn
        simp only [List.mem_cons, List.not_mem_nil, or_false] at isIn
        rcases isIn with rfl | rfl | rfl <;> trivial
    | 1, found =>
        cases found
        have isIn : value ∈ [Value.number (.integer (-7)), .null, .string "\\"] := isIn
        simp only [List.mem_cons, List.not_mem_nil, or_false] at isIn
        rcases isIn with rfl | rfl | rfl
        · exact ⟨by decide, by decide⟩
        · trivial
        · trivial
    | node + 2, found => cases found

theorem texts_of_knot_stand_for_unfolding :
    ExactGraph knot (.container 0) ∧
      ∀ text ∈ [compactText knot (.container 0), prettyText knot (.container 0)],
        (∀ document, Json.PaddedText document text.toList ↔
          document = (unfolding knot (.container 0)).ordered) ∧
          Json.readOrdered text = .ok (unfolding knot (.container 0)).ordered ∧
            Json.read text = .ok (document knot (.container 0)) :=
  ⟨exactGraph_knot, texts_stand_for_unfolding knot (.container 0) exactGraph_knot⟩

end RepoSurvey.Graph
