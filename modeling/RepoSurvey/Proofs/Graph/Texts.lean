import RepoSurvey.Proofs.Graph.Rendering
import RepoSurvey.Proofs.Json.Lines

/-!
# The texts of a graph

The unfolding of a graph as a document in the order of its text, with a mark in place of each repeated
container.  The two renderings of a graph are the two ways of writing that document.
-/

namespace RepoSurvey.Graph

/-- A value without parts as a document. -/
def Value.scalarOrdered : Value → Json.Ordered
  | null | container _ => .null
  | bool value => .bool value
  | number value => .number value
  | string value => .string value

namespace Unfolding

mutual

/-- The document of a tree, with the mark at each repeated container. -/
def ordered : Unfolding → Json.Ordered
  | scalar value => value.scalarOrdered
  | again _ => .string repeatMark
  | full _ .array parts => .array (orderedItems parts)
  | full _ .object parts => .object (orderedMembers parts)

def orderedItems : List (Option String × Unfolding) → List Json.Ordered
  | [] => []
  | (_, part) :: rest => ordered part :: orderedItems rest

def orderedMembers : List (Option String × Unfolding) → List (String × Json.Ordered)
  | [] => []
  | (key, part) :: rest => (key.getD "", ordered part) :: orderedMembers rest

end

/-- The parts of objects have keys, those of arrays have none. -/
def KeysSuit (kind : BracketKind) (parts : List (Option String × Unfolding)) : Prop :=
  ∀ part ∈ parts, part.1.isSome ↔ kind = .object

theorem keysSuit_of_values {container : Container} {parts : List (Option String × Unfolding)}
    (parts_eq : container.parts = values parts) : KeysSuit container.bracketKind parts := by
  intro part isPart
  have isValue : (part.1, part.2.value) ∈ container.parts := by
    rw [parts_eq]
    exact List.mem_map_of_mem isPart
  cases container with
  | array items =>
      obtain ⟨item, _, same⟩ := List.mem_map.mp isValue
      rw [← (Prod.mk.inj same).1]
      simp [Container.bracketKind]
  | object entries =>
      obtain ⟨entry, _, same⟩ := List.mem_map.mp isValue
      rw [← (Prod.mk.inj same).1]
      simp [Container.bracketKind]

theorem orderedItems_eq_map (parts : List (Option String × Unfolding)) :
    orderedItems parts = parts.map (·.2.ordered) := by
  induction parts with
  | nil => rfl
  | cons part rest ih => rw [orderedItems, List.map_cons, ih]

theorem orderedMembers_eq_map (parts : List (Option String × Unfolding)) :
    orderedMembers parts = parts.map fun part => (part.1.getD "", part.2.ordered) := by
  induction parts with
  | nil => rfl
  | cons part rest ih => rw [orderedMembers, List.map_cons, ih]

end Unfolding

/-! ## Layouts -/

namespace Layout

/-- The layout inside a container. -/
def inner : Layout → Layout
  | compact => compact
  | pretty depth _ => pretty (depth + 1) false

/-- How a document is written in a layout. -/
def render : Layout → Json.Ordered → String
  | compact => Json.Ordered.compact
  | pretty depth _ => Json.Ordered.pretty depth

/-- The parts of a container between its brackets. -/
def enclose (kind : BracketKind) (parts : List String) : Layout → String
  | compact => kind.opening ++ ",".intercalate parts ++ kind.closing
  | pretty depth _ => Json.Ordered.bracketed kind.opening kind.closing depth parts

/-- What comes before a part besides the comma. -/
def lead : Layout → String
  | compact => ""
  | pretty depth _ => newline depth

/-- Parts, each with its comma and what comes before it. The first one has no comma. -/
def separate (layout : Layout) : (isFirst : Bool) → List String → String
  | _, [] => ""
  | isFirst, part :: rest => layout.beginPart isFirst ++ part ++ layout.separate false rest

@[simp] theorem separate_endPart (layout : Layout) (isFirst : Bool) (parts : List String) :
    layout.endPart.separate isFirst parts = layout.separate isFirst parts := by
  induction parts generalizing isFirst with
  | nil => rfl
  | cons part rest ih =>
      rw [separate, separate, ih]
      cases layout <;> rfl

theorem beginPart_eq (layout : Layout) (isFirst : Bool) :
    layout.beginPart isFirst = (if isFirst then "" else ",") ++ layout.lead := by
  cases layout with
  | compact => rw [lead, String.append_empty, beginPart]
  | pretty => rfl

theorem separate_false (layout : Layout) (parts : List String) :
    layout.separate false parts = String.join (parts.map ("," ++ layout.lead ++ ·)) := by
  induction parts with
  | nil => rfl
  | cons part rest ih => rw [separate, ih, beginPart_eq, List.map_cons, String.join_cons]; rfl

theorem separate_true (layout : Layout) (first : String) (rest : List String) :
    layout.separate true (first :: rest) =
      layout.lead ++ ("," ++ layout.lead).intercalate (first :: rest) := by
  rw [separate, separate_false, beginPart_eq, Json.Ordered.intercalate_cons, String.append_assoc]
  rfl

theorem pushn_eq_append (text : String) (character : Char) (count : Nat) :
    text.pushn character count = text ++ String.ofList (List.replicate count character) := by
  induction count with
  | zero => simp [String.pushn_eq_repeat_push, Nat.repeat]
  | succ count ih =>
      rw [String.pushn_eq_repeat_push] at ih ⊢
      rw [Nat.repeat, ih, List.replicate_succ', String.ofList_append, ← String.append_assoc]
      rfl

theorem newline_eq (depth : Nat) : newline depth = Json.Ordered.lineBreak depth := by
  rw [newline, pushn_eq_append, String.empty_append, Json.Ordered.lineBreak, String.ofList_cons]
  rfl

/-- A container is written with its brackets and its parts, each with what comes before it. -/
theorem enclose_eq (layout : Layout) (kind : BracketKind) (parts : List String) :
    layout.enclose kind parts =
      (layout.beginContainer kind).1 ++ layout.inner.separate true parts ++
        ((if parts.isEmpty then layout.inner else layout.inner.endPart).endContainer kind).1 := by
  cases layout with
  | compact =>
      cases parts with
      | nil => rfl
      | cons first rest =>
          rw [separate_true]
          rfl
  | pretty depth hasPart =>
      cases parts with
      | nil => simp [enclose, Json.Ordered.bracketed, beginContainer, inner, separate, endContainer]
      | cons first rest =>
          rw [separate_true]
          simp [enclose, Json.Ordered.bracketed, beginContainer, inner, endContainer, endPart, lead,
            newline_eq, String.append_assoc]

end Layout

namespace Unfolding

/-- The texts of some parts with their keys. -/
def partTexts (layout : Layout) (parts : List (Option String × Unfolding)) : List String :=
  parts.map fun part =>
    (part.1.elim "" fun key => Json.quote key ++ layout.afterKey) ++ layout.render part.2.ordered

theorem partTexts_cons (layout : Layout) (key : Option String) (part : Unfolding)
    (rest : List (Option String × Unfolding)) :
    partTexts layout ((key, part) :: rest) =
      ((key.elim "" fun key => Json.quote key ++ layout.afterKey) ++ layout.render part.ordered) ::
        partTexts layout rest := by
  rfl

theorem render_full (layout : Layout) (node : NodeId) {kind : BracketKind}
    {parts : List (Option String × Unfolding)} (suits : KeysSuit kind parts) :
    layout.render (full node kind parts).ordered =
      layout.enclose kind (partTexts layout.inner parts) := by
  -- No part of an array has a key, and every part of an object has one.
  cases kind with
  | array =>
      have keyless : partTexts layout.inner parts =
          parts.map fun part => layout.inner.render part.2.ordered := by
        apply List.map_congr_left
        intro part isPart
        have noKey : part.1 = none := by simpa using suits part isPart
        rw [noKey, Option.elim_none, String.empty_append]
      rw [keyless, ordered, orderedItems_eq_map]
      cases layout with
      | compact =>
          rw [Layout.render, Json.Ordered.compact, Json.Ordered.compactItems_eq_map, List.map_map]
          rfl
      | pretty =>
          rw [Layout.render, Json.Ordered.pretty, Json.Ordered.prettyItems_eq_map, List.map_map]
          rfl
  | object =>
      have keyed : partTexts layout.inner parts = parts.map fun part =>
          Json.quote (part.1.getD "") ++ layout.inner.afterKey ++
            layout.inner.render part.2.ordered := by
        apply List.map_congr_left
        intro part isPart
        obtain ⟨key, hasKey⟩ : ∃ key, part.1 = some key := by
          simpa [Option.isSome_iff_exists] using suits part isPart
        rw [hasKey, Option.elim_some, Option.getD_some]
      rw [keyed, ordered, orderedMembers_eq_map]
      cases layout with
      | compact =>
          rw [Layout.render, Json.Ordered.compact, Json.Ordered.compactMembers_eq_map, List.map_map]
          rfl
      | pretty =>
          rw [Layout.render, Json.Ordered.pretty, Json.Ordered.prettyMembers_eq_map, List.map_map]
          rfl

mutual

theorem written_eq {store : Store} (layout : Layout) :
    (tree : Unfolding) → tree.Fits store →
      (tree.written layout).1 = layout.render tree.ordered ∧
        (tree.written layout).2.endPart = layout.endPart
  | scalar value, _ => by
      cases layout <;> cases value <;> exact ⟨rfl, rfl⟩
  | again node, _ => by
      cases layout <;> exact ⟨rfl, rfl⟩
  | full node kind parts, ⟨container, _, kind_eq, parts_eq, partsFit⟩ => by
      have suits := keysSuit_of_values parts_eq
      rw [kind_eq] at suits
      have inside : (layout.beginContainer kind).2 = layout.inner := by cases layout <;> rfl
      rw [render_full layout node suits, written_full, inside,
        writtenParts_eq layout.inner true parts partsFit, Layout.enclose_eq]
      refine ⟨?_, ?_⟩
      · rw [partTexts, List.isEmpty_map]
      · cases layout with
        | compact => cases parts <;> rfl
        | pretty => cases parts <;> rfl

theorem writtenParts_eq {store : Store} (layout : Layout) (isFirst : Bool) :
    (parts : List (Option String × Unfolding)) → PartsFit store parts →
        writtenParts layout isFirst parts =
          (layout.separate isFirst (partTexts layout parts),
            if parts.isEmpty then layout else layout.endPart)
  | [], _ => rfl
  | (key, part) :: rest, ⟨fits, restFits⟩ => by
      obtain ⟨text_eq, layout_eq⟩ := written_eq layout part fits
      rw [writtenParts_cons, text_eq, layout_eq,
        writtenParts_eq layout.endPart false rest restFits, Layout.separate_endPart]
      have sameTexts : partTexts layout.endPart rest = partTexts layout rest := by
        cases layout <;> rfl
      have stillEnded : (if rest.isEmpty then layout.endPart else layout.endPart.endPart) =
          layout.endPart := by
        cases layout <;> simp [Layout.endPart]
      rw [sameTexts, stillEnded, partTexts_cons, Layout.separate]
      cases key with
      | none => simp [Writer.partText]
      | some key => simp [Writer.partText, String.append_assoc]

end

end Unfolding

/-! ## Texts of graphs -/

theorem writeGraph_eq_put_render (layout : Layout) (store : Store) (root : Value) :
    writeGraph layout store root = put (layout.render (unfolding store root).ordered) := by
  have isTree := unfolding_isTree store root
  rw [writeGraph_eq_put, (Unfolding.written_eq layout _ isTree.fits).1]

theorem run_writeGraph_compact (store : Store) (root : Value) :
    (writeGraph .compact store root).run {} = .ok () { text := compactText store root } := by
  rw [writeGraph_eq_put_render, compactText, renderWith, writeGraph_eq_put_render]
  rfl

theorem renderWith_eq (layout : Layout) (store : Store) (root : Value) :
    renderWith layout store root = layout.render (unfolding store root).ordered := by
  rw [renderWith, writeGraph_eq_put_render]
  exact String.empty_append

theorem compactText_eq (store : Store) (root : Value) :
    compactText store root = (unfolding store root).ordered.compact :=
  renderWith_eq .compact store root

theorem prettyText_eq (store : Store) (root : Value) :
    prettyText store root = (unfolding store root).ordered.pretty 0 :=
  renderWith_eq .start store root

/-- Writing a graph comes to its end and writes its unfolding in one line. A reference is cut open
exactly if it is the first one to its container in document order. So each container that can be reached
is written once, and all other references to it are marks. -/
theorem compactText_unfolds_each_container_once (store : Store) (root : Value) :
    (writeGraph .compact store root).run {} =
        .ok () { text := (unfolding store root).ordered.compact } ∧
      compactText store root = (unfolding store root).ordered.compact ∧
      (∀ before node isOpen after,
        (unfolding store root).places = before ++ (node, isOpen) :: after →
          (isOpen = true ↔ node ∉ before.map (·.1))) ∧
      (unfolding store root).nodes.Nodup ∧
      (∀ node, node ∈ (unfolding store root).nodes ↔ Reachable store root node) ∧
      (unfolding store root).repeats.length + (reachableNodes store root).card =
        reachableReferences store root := by
  refine ⟨?_, compactText_eq store root, ?_, nodup_nodes_unfolding store root,
    fun node => mem_nodes_unfolding_iff, length_repeats_unfolding store root⟩
  · rw [run_writeGraph_compact, compactText_eq]
  · intro before node isOpen after places_eq
    have opensFirst := opensFirst_unfolding store root
    rw [places_eq] at opensFirst
    exact opensFirst.isOpen_iff

/-- The text of a graph on several lines is its unfolding with every part of a container in a line of its
own, two blanks further in than the brackets around it; a container without parts stays in one line.  Without
the white space outside quotation marks it is the text in one line. -/
theorem prettyText_gives_each_part_a_line (store : Store) (root : Value) :
    (writeGraph .start store root).run {} =
        .ok () { text := (unfolding store root).ordered.pretty 0 } ∧
      prettyText store root = (unfolding store root).ordered.pretty 0 ∧
      (prettyText store root).toList.splitOn '\n' =
        ((unfolding store root).ordered.lines 0 "" "").map (·.shown.toList) ∧
      Json.withoutBlanks (prettyText store root) = compactText store root := by
  refine ⟨?_, prettyText_eq store root, ?_, ?_⟩
  · rw [writeGraph_eq_put_render]
    exact congrArg (fun text => EStateM.Result.ok () (Sink.mk text none)) String.empty_append
  · rw [prettyText_eq, Json.Ordered.splitOn_pretty]
  · rw [prettyText_eq, compactText_eq]
    exact (Json.Condenses.pretty 0 _).withoutBlanks_eq

end RepoSurvey.Graph
