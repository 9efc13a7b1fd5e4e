import RepoSurvey.Representation

/-!
# The first fault in document order

The search for the first error of a tree passes over the subtrees that are not marked.  Where the marks are
right it finds what a search of all nodes finds (`firstFault?_eq_find?`), so no error hides an earlier one.
-/

namespace RepoSurvey.SyntaxNode

/-- Exactly those nodes are marked that are, or contain, an error or a missing token. -/
def FaultsMarked (tree : SyntaxNode) : Prop :=
  ∀ node ∈ tree.preorder, node.label.hasError = node.preorder.any isFault

theorem FaultsMarked.child {tree child : SyntaxNode} (marked : tree.FaultsMarked)
    (isChild : child ∈ tree.children) : child.FaultsMarked :=
  fun node isInside => marked node (preorder_subset isChild isInside)

theorem FaultsMarked.hasError_eq {tree : SyntaxNode} (marked : tree.FaultsMarked) :
    tree.label.hasError = tree.preorder.any isFault :=
  marked tree tree.self_mem_preorder

/-- Of some trees that wait, the search finds the first fault in document order. -/
theorem firstFault?_eq_find? (pending : List SyntaxNode)
    (marked : ∀ tree ∈ pending, tree.FaultsMarked) :
    firstFault? pending = (pending.flatMap preorder).find? isFault := by
  induction pending using firstFault?.induct with
  | case1 => rw [firstFault?, List.flatMap_nil, List.find?_nil]
  | case2 tree rest isFault =>
      rw [firstFault?, if_pos isFault, List.flatMap_cons, preorder_eq, List.cons_append,
        List.find?_cons_of_pos isFault]
  | case3 tree rest notFault hasError ih =>
      rw [List.forall_mem_cons] at marked
      have others := ih (List.forall_mem_append.mpr
        ⟨fun child isChild => marked.1.child isChild, marked.2⟩)
      rw [firstFault?, if_neg notFault, if_pos hasError, others, List.flatMap_append,
        List.flatMap_cons, preorder_eq, List.cons_append, List.find?_cons_of_neg notFault]
  | case4 tree rest notFault noError ih =>
      -- Nothing is lost with a subtree that is not marked.
      rw [List.forall_mem_cons] at marked
      have noFault : tree.preorder.find? SyntaxNode.isFault = none := by
        have isSound := eq_false_of_ne_true noError
        rw [marked.1.hasError_eq, List.any_eq_false] at isSound
        exact List.find?_eq_none.mpr isSound
      rw [firstFault?, if_neg notFault, if_neg noError, ih marked.2, List.flatMap_cons,
        List.find?_append, noFault, Option.none_or]

/-- A search from the root finds the first fault of the tree. -/
theorem firstFault?_root {root : SyntaxNode} (marked : root.FaultsMarked) :
    firstFault? [root] = root.preorder.find? isFault := by
  rw [firstFault?_eq_find? [root] (List.forall_mem_singleton.mpr marked), List.flatMap_singleton]

/-! ## What is reported -/

theorem describeFault_eq (source : String) (fault : SyntaxNode) :
    describeFault source fault =
      (if fault.label.isMissing then "missing `" ++ fault.kind
        else "unexpected `" ++ firstChars 40 (fault.text source)) ++
        "` at line " ++ toString (fault.label.start.row + 1) ++
          ", column " ++ toString (fault.label.start.column + 1) := by
  have place_eq : s!"at line {fault.label.start.row + 1}, column {fault.label.start.column + 1}" =
      "at line " ++ toString (fault.label.start.row + 1) ++ ", column " ++
        toString (fault.label.start.column + 1) := rfl
  have closing : "` at line " = "` " ++ "at line " := by decide
  rw [describeFault, place_eq, closing]
  split <;> simp only [String.append_assoc]

/-- The general report is never that of a fault. -/
theorem describeFault_ne (source : String) (fault : SyntaxNode) :
    describeFault source fault ≠ "syntax error" := by
  intro same
  have sameChars := congrArg String.toList same
  rw [describeFault_eq] at sameChars
  split at sameChars <;> simp [String.toList_append] at sameChars

theorem describeFirstError_eq (source : String) {root : SyntaxNode} (marked : root.FaultsMarked) :
    root.describeFirstError source =
      (root.preorder.find? isFault).elim "syntax error" (describeFault source) := by
  rw [describeFirstError, firstFault?_root marked]

end RepoSurvey.SyntaxNode

namespace RepoSurvey.Languages

open SyntaxNode

/-- A tree is taken if it has no fault, and otherwise its first fault is reported. -/
theorem soundTree_of_parsed {language : Parsing.Language} {category : Category} {content : String}
    {root : SyntaxNode} (parsed : language.parse? content = some root) (marked : root.FaultsMarked) :
    soundTree language category content =
      (root.preorder.find? isFault).elim (.ok root) fun fault =>
        .error ⟨category, describeFault content fault⟩ := by
  rw [soundTree, parsed]
  dsimp only
  rw [marked.hasError_eq, ← List.isSome_find?, describeFirstError_eq content marked]
  cases root.preorder.find? isFault <;> rfl

end RepoSurvey.Languages

namespace RepoSurvey

open SyntaxNode

/-- Where the marks of a tree are right, the fault that is reported is the first one in document order,
with its line and column counted from one, and the general report is left to trees without a fault.  So
scripts and stylesheets are refused with the place of their first fault, and only if they have one. -/
theorem describeFirstError_tells_first (source : String) (root : SyntaxNode)
    (marked : root.FaultsMarked) :
    (∀ before fault after, root.preorder = before ++ fault :: after → fault.isFault = true →
      (∀ earlier ∈ before, earlier.isFault = false) →
        root.describeFirstError source =
          (if fault.label.isMissing then "missing `" ++ fault.kind
            else "unexpected `" ++ firstChars 40 (fault.text source)) ++
            "` at line " ++ toString (fault.label.start.row + 1) ++
              ", column " ++ toString (fault.label.start.column + 1)) ∧
      (root.describeFirstError source = "syntax error" ↔
        ∀ node ∈ root.preorder, node.isFault = false) ∧
      ∀ (languages : Languages) (describesItems : Bool) (path : String),
        ((languages.script (.ofPath path)).parse? source = some root →
          languages.represent describesItems .script path source =
            (root.preorder.find? isFault).elim
              (.ok (.parsed (.syntaxTree (.ofPath path) source root))) fun fault =>
                .error ⟨.script, describeFault source fault⟩) ∧
          (languages.stylesheet.parse? source = some root →
            languages.represent describesItems .stylesheet path source =
              (root.preorder.find? isFault).elim (.ok (.parsed (.ruleTree source root)))
                fun fault => .error ⟨.stylesheet, describeFault source fault⟩) := by
  refine ⟨?_, ?_, fun languages describesItems path => ⟨fun parsed => ?_, fun parsed => ?_⟩⟩
  · intro before fault after preorder_eq isFault areSound
    have isFirst : root.preorder.find? SyntaxNode.isFault = some fault := by
      rw [List.find?_eq_some_iff_append]
      exact ⟨isFault, before, after, preorder_eq, fun earlier isEarlier => by
        rw [areSound earlier isEarlier, Bool.not_false]⟩
    rw [describeFirstError_eq source marked, isFirst, Option.elim_some, describeFault_eq]
  · rw [describeFirstError_eq source marked]
    cases found : root.preorder.find? SyntaxNode.isFault with
    | none => simpa using List.find?_eq_none.mp found
    | some fault =>
        have isFault := List.find?_some found
        have isInside := List.mem_of_find?_eq_some found
        refine iff_of_false (describeFault_ne source fault) fun areSound => ?_
        rw [areSound fault isInside] at isFault
        exact Bool.false_ne_true isFault
  · rw [Languages.represent, Languages.soundTree_of_parsed parsed marked]
    cases root.preorder.find? SyntaxNode.isFault <;> rfl
  · rw [Languages.represent, Languages.soundTree_of_parsed parsed marked]
    cases root.preorder.find? SyntaxNode.isFault <;> rfl

/-! ## A call without its closing parenthesis -/

def callSource : String := "f(1\n\x7d"

def callLeaf (kind : String) (start stop : Place) : SyntaxNode :=
  .node { kind, isNamed := false, start, stop } []

/-- The token that the text lacks. -/
def lackingToken : SyntaxNode :=
  .node { kind := ")", isNamed := false, start := ⟨3, 0, 3⟩, stop := ⟨3, 0, 3⟩, isMissing := true
          hasError := true } []

/-- A sound name, the arguments with the missing token, and input that has no place. -/
def brokenCall : SyntaxNode :=
  .node { kind := "program", start := ⟨0, 0, 0⟩, stop := ⟨5, 1, 1⟩, hasError := true }
    [.node { kind := "identifier", start := ⟨0, 0, 0⟩, stop := ⟨1, 0, 1⟩ } [],
      .node { kind := "arguments", start := ⟨1, 0, 1⟩, stop := ⟨3, 0, 3⟩, hasError := true }
        [callLeaf "(" ⟨1, 0, 1⟩ ⟨2, 0, 2⟩, callLeaf "1" ⟨2, 0, 2⟩ ⟨3, 0, 3⟩, lackingToken],
      .node { kind := "ERROR", start := ⟨4, 1, 0⟩, stop := ⟨5, 1, 1⟩, isError := true
              hasError := true } [callLeaf "\x7d" ⟨4, 1, 0⟩ ⟨5, 1, 1⟩]]

theorem faultsMarked_brokenCall : brokenCall.FaultsMarked := by
  unfold FaultsMarked
  decide

theorem describeFirstError_of_brokenCall :
    brokenCall.FaultsMarked ∧
      brokenCall.describeFirstError callSource = "missing `)` at line 1, column 4" :=
  ⟨faultsMarked_brokenCall,
    (describeFirstError_tells_first callSource brokenCall faultsMarked_brokenCall).1
      (brokenCall.preorder.take 5) lackingToken (brokenCall.preorder.drop 6) rfl rfl (by decide)⟩

end RepoSurvey
