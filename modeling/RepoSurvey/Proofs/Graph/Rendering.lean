import RepoSurvey.Proofs.Graph.References

/-!
# Rendering a graph

The writer of a graph keeps its open containers in a list and the layout in its state.  What it writes
is the text of the unfolding, which plain recursion gives (`writeGraph_eq_put`): one step writes one
part or one end, and the steps between opening a container and closing it write its parts.
-/

namespace RepoSurvey.Graph

/-- What comes before the value of a part. -/
def Writer.partText (layout : Layout) (isFirst : Bool) (key : Option String) : String :=
  match key with
  | none => layout.beginPart isFirst
  | some key => layout.beginPart isFirst ++ Json.quote key ++ layout.afterKey

theorem Writer.join_partPieces (layout : Layout) (isFirst : Bool) (key : Option String)
    (text : String) :
    String.join (partPieces layout isFirst key ++ [text]) =
      partText layout isFirst key ++ text := by
  cases key <;> simp [partPieces, partText, String.append_assoc]

namespace Unfolding

mutual

/-- The text of a tree in a layout, and the layout after it. -/
def written (layout : Layout) : Unfolding → String × Layout
  | scalar value => (value.scalarText, layout)
  | again _ => (Json.quote repeatMark, layout)
  | full _ kind parts =>
      let (opening, inside) := layout.beginContainer kind
      let (content, last) := writtenParts inside true parts
      let (closing, outside) := last.endContainer kind
      (opening ++ content ++ closing, outside)

/-- The text of some parts, with what separates them. -/
def writtenParts (layout : Layout) (isFirst : Bool) :
    List (Option String × Unfolding) → String × Layout
  | [] => ("", layout)
  | (key, part) :: rest =>
      let (text, next) := written layout part
      let (others, last) := writtenParts next.endPart false rest
      (Writer.partText layout isFirst key ++ text ++ others, last)

end

theorem written_full (layout : Layout) (node : NodeId) (kind : BracketKind)
    (parts : List (Option String × Unfolding)) :
    (full node kind parts).written layout =
      ((layout.beginContainer kind).1 ++
          (writtenParts (layout.beginContainer kind).2 true parts).1 ++
          ((writtenParts (layout.beginContainer kind).2 true parts).2.endContainer kind).1,
        ((writtenParts (layout.beginContainer kind).2 true parts).2.endContainer kind).2) := by
  rfl

theorem writtenParts_cons (layout : Layout) (isFirst : Bool) (key : Option String)
    (part : Unfolding) (rest : List (Option String × Unfolding)) :
    writtenParts layout isFirst ((key, part) :: rest) =
      (Writer.partText layout isFirst key ++ (part.written layout).1 ++
          (writtenParts (part.written layout).2.endPart false rest).1,
        (writtenParts (part.written layout).2.endPart false rest).2) := by
  rfl

end Unfolding

/-! ## Several steps of a writer -/

namespace Writer

/-- A writer comes to a later state and writes a text on its way. -/
inductive Steps (store : Store) : Writer → String → Writer → Prop
  | done (writer : Writer) : Steps store writer "" writer
  | more {writer next last : Writer} {pieces : List String} {others : String}
      (stepped : writer.step store = some (pieces, next)) (steps : Steps store next others last) :
      Steps store writer (String.join pieces ++ others) last

theorem Steps.append {store : Store} {writer middle last : Writer} {text others : String}
    (first : Steps store writer text middle) (second : Steps store middle others last) :
    Steps store writer (text ++ others) last := by
  induction first with
  | done writer =>
      rw [String.empty_append]
      exact second
  | more stepped _ ih =>
      rw [String.append_assoc]
      exact Steps.more stepped (ih second)

theorem Steps.single {store : Store} {writer next : Writer} {pieces : List String}
    (stepped : writer.step store = some (pieces, next)) :
    Steps store writer (String.join pieces) next := by
  have steps := Steps.more stepped (Steps.done next)
  rwa [String.append_empty] at steps

/-- The visited containers are those of a set. -/
def Visits (visited : Visited) (seen : Finset NodeId) : Prop :=
  ∀ node, visited.contains node = true ↔ node ∈ seen

theorem visits_empty : Visits {} ∅ := by
  intro node
  simp

theorem Visits.insert {visited : Visited} {seen : Finset NodeId} (visits : Visits visited seen)
    (node : NodeId) : Visits (visited.insert node) (Insert.insert node seen) := by
  intro other
  rw [Std.HashSet.contains_insert, Bool.or_eq_true, visits other, Finset.mem_insert, beq_iff_eq,
    eq_comm]

end Writer

section Visit

variable {store : Store} {visited : Visited} {seen : Finset NodeId} {node : NodeId}
  {container : Container}

theorem visit_scalar {value : Value}
    (absent : ∀ node, value = .container node → store.container? node = none) :
    visit store visited value = .scalar := by
  cases value with
  | container node => rw [visit, absent node rfl]
  | _ => rfl

theorem visit_again (visits : Writer.Visits visited seen)
    (found : store.container? node = some container) (isSeen : node ∈ seen) :
    visit store visited (.container node) = .again := by
  rw [visit, found]
  exact if_pos ((visits node).mpr isSeen)

theorem visit_new (visits : Writer.Visits visited seen)
    (found : store.container? node = some container) (isNew : node ∉ seen) :
    visit store visited (.container node) = .first node container := by
  rw [visit, found]
  exact if_neg fun isVisited => isNew ((visits node).mp isVisited)

end Visit

namespace Writer

variable {store : Store}

section BeginValue

variable {writer : Writer} {seen : Finset NodeId} {node : NodeId} {container : Container}

theorem beginValue_scalar {value : Value}
    (absent : ∀ node, value = .container node → store.container? node = none) :
    writer.beginValue store value = (value.scalarText, writer.endValue) := by
  rw [beginValue, visit_scalar absent]

theorem beginValue_again (visits : Visits writer.visited seen)
    (found : store.container? node = some container) (isSeen : node ∈ seen) :
    writer.beginValue store (.container node) = (Json.quote repeatMark, writer.endValue) := by
  rw [beginValue, visit_again visits found isSeen]

theorem beginValue_new (visits : Visits writer.visited seen)
    (found : store.container? node = some container) (isNew : node ∉ seen) :
    writer.beginValue store (.container node) =
      ((writer.layout.beginContainer container.bracketKind).1,
        ⟨(writer.layout.beginContainer container.bracketKind).2, writer.visited.insert node,
          ⟨container.bracketKind, true, container.parts⟩ :: writer.frames⟩) := by
  rw [beginValue, visit_new visits found isNew]

end BeginValue

/-- A writer that begins a value comes to a state in which all of the value is written. -/
def WritesValue (store : Store) (writer : Writer) (value : Value) (text : String)
    (last : Writer) : Prop :=
  ∃ others, Steps store (writer.beginValue store value).2 others last ∧
    (writer.beginValue store value).1 ++ others = text

theorem WritesValue.of_beginValue {writer last : Writer} {value : Value} {text : String}
    (begins : writer.beginValue store value = (text, last)) :
    WritesValue store writer value text last := by
  refine ⟨"", ?_, ?_⟩
  · rw [begins]
    exact Steps.done last
  · rw [begins, String.append_empty]

mutual

/-- Writing a value writes its tree. Afterwards the open containers are the same as before. -/
theorem writesValue {seen : Finset NodeId} (writer : Writer) (visits : Visits writer.visited seen) :
    (tree : Unfolding) → tree.Fits store → tree.InOrder seen →
      ∃ visited, Visits visited (seen ∪ tree.nodes.toFinset) ∧
        WritesValue store writer tree.value (tree.written writer.layout).1
          (endValue ⟨(tree.written writer.layout).2, visited, writer.frames⟩)
  | .scalar value, fits, _ => by
      refine ⟨writer.visited, by simpa using visits, ?_⟩
      exact WritesValue.of_beginValue (beginValue_scalar fits)
  | .again node, ⟨container, found⟩, isSeen => by
      refine ⟨writer.visited, by simpa using visits, ?_⟩
      exact WritesValue.of_beginValue (beginValue_again visits found isSeen)
  | .full node kind parts, ⟨container, found, kind_eq, parts_eq, partsFit⟩,
      ⟨isNew, partsInOrder⟩ => by
      obtain ⟨visited, stillFirst, stillVisits, inner⟩ := writesParts (visits.insert node)
        (writer.layout.beginContainer kind).2 kind true writer.frames parts partsFit partsInOrder
      refine ⟨visited, by simpa using stillVisits, ?_⟩
      have begins := beginValue_new visits found isNew
      rw [kind_eq, parts_eq] at begins
      have closes (last : Layout) :
          step store ⟨last, visited, ⟨kind, stillFirst, []⟩ :: writer.frames⟩ =
            some ([(last.endContainer kind).1],
              endValue ⟨(last.endContainer kind).2, visited, writer.frames⟩) := rfl
      rw [WritesValue, Unfolding.value, begins, Unfolding.written_full]
      refine ⟨_, inner.append (Steps.single (closes _)), ?_⟩
      simp only [String.join_cons, String.join_nil, String.append_empty, String.append_assoc]

/-- Going on with the parts of an open container writes their trees. -/
theorem writesParts {seen : Finset NodeId} {visited : Visited} (visits : Visits visited seen)
    (layout : Layout) (kind : BracketKind) (isFirst : Bool) (outer : List Frame) :
    (parts : List (Option String × Unfolding)) → Unfolding.PartsFit store parts →
      Unfolding.PartsInOrder seen parts →
        ∃ later stillFirst, Visits later (seen ∪ (Unfolding.nodesOf parts).toFinset) ∧
          Steps store ⟨layout, visited, ⟨kind, isFirst, Unfolding.values parts⟩ :: outer⟩
            (Unfolding.writtenParts layout isFirst parts).1
            ⟨(Unfolding.writtenParts layout isFirst parts).2, later,
              ⟨kind, stillFirst, []⟩ :: outer⟩
  | [], _, _ => ⟨visited, isFirst, by simpa using visits, Steps.done _⟩
  | (key, part) :: rest, ⟨fits, restFits⟩, ⟨inOrder, restInOrder⟩ => by
      let parent : Writer := ⟨layout, visited, ⟨kind, false, Unfolding.values rest⟩ :: outer⟩
      obtain ⟨between, firstVisits, others, steps, text_eq⟩ :=
        writesValue parent visits part fits inOrder
      obtain ⟨later, stillFirst, restVisits, restSteps⟩ := writesParts firstVisits
        (part.written layout).2.endPart kind false outer rest restFits restInOrder
      refine ⟨later, stillFirst, ?_, ?_⟩
      · rw [Unfolding.nodesOf_cons, List.toFinset_append, ← Finset.union_assoc]
        exact restVisits
      · have stepped : step store
            ⟨layout, visited, ⟨kind, isFirst, Unfolding.values ((key, part) :: rest)⟩ :: outer⟩ =
              some (partPieces layout isFirst key ++ [(parent.beginValue store part.value).1],
                (parent.beginValue store part.value).2) := rfl
        have written := Steps.more stepped (steps.append restSteps)
        rw [join_partPieces] at written
        have text_eq : (parent.beginValue store part.value).1 ++ others =
            (part.written layout).1 := text_eq
        rw [Unfolding.writtenParts_cons, ← text_eq]
        simpa only [String.append_assoc] using written

end

end Writer

/-! ## The whole text -/

theorem fitting_append_of_le {room : Nat} (first others : List Char)
    (fits : (String.ofList first).utf8ByteSize ≤ room) :
    fitting room (first ++ others) =
      first ++ fitting (room - (String.ofList first).utf8ByteSize) others := by
  induction first generalizing room with
  | nil => simp
  | cons character rest ih =>
      rw [String.ofList_cons, String.utf8ByteSize_append, String.utf8ByteSize_singleton] at fits ⊢
      rw [List.cons_append, fitting, if_pos (by omega), ih (by omega), List.cons_append,
        Nat.sub_sub]

theorem fitting_append_of_lt {room : Nat} (first others : List Char)
    (isShort : room < (String.ofList first).utf8ByteSize) :
    fitting room (first ++ others) = fitting room first := by
  induction first generalizing room with
  | nil => simp at isShort
  | cons character rest ih =>
      rw [String.ofList_cons, String.utf8ByteSize_append, String.utf8ByteSize_singleton] at isShort
      rw [List.cons_append, fitting, fitting]
      by_cases fits : character.utf8Size ≤ room
      · rw [if_pos fits, if_pos fits, ih (by omega)]
      · rw [if_neg fits, if_neg fits]

/-- Two texts are written like one. -/
theorem put_append (first others : String) :
    (do put first; put others) = put (first ++ others) := by
  funext ⟨text, room⟩
  change EStateM.bind (put first) (fun _ => put others) ⟨text, room⟩ = _
  cases room with
  | none => simp [EStateM.bind, put, String.append_assoc]
  | some room =>
      by_cases fits : first.utf8ByteSize ≤ room
      · by_cases othersFit : others.utf8ByteSize ≤ room - first.utf8ByteSize
        · have bothFit : first.utf8ByteSize + others.utf8ByteSize ≤ room := by omega
          simp [EStateM.bind, put, fits, othersFit, bothFit, String.utf8ByteSize_append,
            String.append_assoc, Nat.sub_sub]
        · have tooLong : ¬ first.utf8ByteSize + others.utf8ByteSize ≤ room := by omega
          have start := fitting_append_of_le first.toList others.toList
            (show (String.ofList first.toList).utf8ByteSize ≤ room by simpa using fits)
          simp [EStateM.bind, put, fits, othersFit, tooLong, String.utf8ByteSize_append,
            String.append_assoc, start]
      · have tooLong : ¬ first.utf8ByteSize + others.utf8ByteSize ≤ room := by omega
        have start := fitting_append_of_lt first.toList others.toList
          (show room < (String.ofList first.toList).utf8ByteSize by simpa using fits)
        simp [EStateM.bind, put, fits, tooLong, String.utf8ByteSize_append, start]

theorem put_empty : put "" = pure () := by
  funext ⟨text, room⟩
  cases room with
  | none => simp [put, pure, EStateM.pure]
  | some room => simp [put, pure, EStateM.pure]

/-- Pieces are written like the whole text. -/
theorem forM_put (pieces : List String) : forM pieces put = put (String.join pieces) := by
  induction pieces with
  | nil => exact put_empty.symm
  | cons piece rest ih =>
      rw [List.forM_cons, ih, put_append, String.join_cons]

/-- A writer that comes to its end in several steps hands on, piece by piece, what it writes on its
way. -/
theorem Writer.Steps.finishWith_eq {store : Store} {writer last : Writer} {text : String}
    (steps : Steps store writer text last) (isDone : last.step store = none) :
    ∃ pieces, String.join pieces = text ∧
      ∀ {m : Type → Type} [Monad m] [LawfulMonad m] (put : String → m Unit),
        writer.finishWith put store = forM pieces put := by
  induction steps with
  | done writer =>
      refine ⟨[], rfl, fun put => ?_⟩
      rw [finishWith]
      split
      · rfl
      · rename_i stepped
        rw [isDone] at stepped
        cases stepped
  | @more writer next last pieces others stepped _ ih =>
      obtain ⟨rest, join_eq, finishes⟩ := ih isDone
      refine ⟨pieces ++ rest, by rw [String.join_append, join_eq], fun put => ?_⟩
      rw [finishWith]
      split
      · rename_i isOver
        rw [isOver] at stepped
        cases stepped
      · rename_i other
        rw [stepped] at other
        cases other
        rw [finishes, List.forM_append]

/-- Whatever is done with the pieces of a graph, together they are the text of its unfolding. -/
theorem writeWith_eq_forM (layout : Layout) (store : Store) (root : Value) :
    ∃ pieces, String.join pieces = ((unfolding store root).written layout).1 ∧
      ∀ {m : Type → Type} [Monad m] [LawfulMonad m] (put : String → m Unit),
        writeWith put layout store root = forM pieces put := by
  have isTree := unfolding_isTree store root
  obtain ⟨visited, _, others, steps, text_eq⟩ := Writer.writesValue { layout }
    Writer.visits_empty (unfolding store root) isTree.fits isTree.inOrder
  rw [isTree.value_eq] at steps text_eq
  obtain ⟨pieces, join_eq, finishes⟩ := steps.finishWith_eq rfl
  refine ⟨(Writer.beginValue store { layout } root).1 :: pieces, ?_, fun put => ?_⟩
  · rw [String.join_cons, join_eq, text_eq]
  · rw [List.forM_cons, ← finishes put]
    rfl

/-- What is written of a graph is the text of its unfolding. -/
theorem writeGraph_eq_put (layout : Layout) (store : Store) (root : Value) :
    writeGraph layout store root = put ((unfolding store root).written layout).1 := by
  obtain ⟨pieces, join_eq, writes⟩ := writeWith_eq_forM layout store root
  rw [writeGraph, writes, forM_put, join_eq]

end RepoSurvey.Graph
