import Mathlib.Data.List.TakeDrop
import Mathlib.Data.List.TakeWhile
import RepoSurvey.Category
import RepoSurvey.Proofs.Files.Joining
import RepoSurvey.Proofs.Text.LetterCase
import RepoSurvey.Script.Dialect

/-!
# Extensions

The category of a file is told from the extension of its name, the dialect of a script from the end of
the whole path.  What is a script ends in its extension, so the dialect goes by the extension too.  The
directories before a name and the case of letters matter to neither.
-/

namespace RepoSurvey

/-! ## Ends of lists -/

section Ends

variable {α : Type} {sign : α} {word front rest : List α}

/-- Nothing before a sign is part of an end that the sign is not part of. -/
theorem suffix_append_cons_iff (isFree : sign ∉ word) :
    word <:+ front ++ sign :: rest ↔ word <:+ rest := by
  have isEnd : sign :: rest <:+ front ++ sign :: rest := List.suffix_append front _
  constructor
  · intro isWord
    rcases List.suffix_or_suffix_of_suffix isWord isEnd with isInside | isOutside
    · rcases List.suffix_cons_iff.mp isInside with same | isInside
      · exact absurd (same ▸ List.mem_cons_self) isFree
      · exact isInside
    · exact absurd (isOutside.subset List.mem_cons_self) isFree
  · intro isInside
    exact isInside.trans ((List.suffix_cons sign rest).trans isEnd)

/-- What follows the last sign is told by the list. -/
theorem cons_suffix_append_cons_iff (isFree : sign ∉ word) (isLast : sign ∉ rest) :
    sign :: word <:+ front ++ sign :: rest ↔ word = rest := by
  have isEnd : sign :: rest <:+ front ++ sign :: rest := List.suffix_append front _
  constructor
  · intro isWord
    rcases List.suffix_or_suffix_of_suffix isWord isEnd with isInside | isOutside
    · rcases List.suffix_cons_iff.mp isInside with same | isInside
      · exact (List.cons.inj same).2
      · exact absurd (isInside.subset List.mem_cons_self) isLast
    · rcases List.suffix_cons_iff.mp isOutside with same | isOutside
      · exact (List.cons.inj same).2.symm
      · exact absurd (isOutside.subset List.mem_cons_self) isFree
  · rintro rfl
    exact isEnd

end Ends

namespace Path

/-! ## The last name of a path -/

/-- A name of a path, neither empty nor a single dot. -/
structure IsProper (name : String) : Prop where
  isName : IsName name
  nonempty : name ≠ ""
  ne_dot : name ≠ "."

theorem toList_below (directory name : String) :
    (directory ++ "/" ++ name).toList = directory.toList ++ '/' :: name.toList := by
  simp

theorem components_of_isProper {name : String} (isProper : IsProper name) :
    components name = [name] := by
  rw [components, splitAt_eq_splitOn, List.splitOn_eq_singleton isProper.isName]
  simp [isProper.nonempty, isProper.ne_dot]

theorem components_below (directory : String) {name : String} (isProper : IsProper name) :
    components (directory ++ "/" ++ name) = components directory ++ [name] := by
  have split_eq := components_of_isProper isProper
  rw [components, splitAt_eq_splitOn] at split_eq
  rw [components, components, splitAt_eq_splitOn, splitAt_eq_splitOn, toList_below,
    List.splitOn_append_cons_self, List.map_append, List.filter_append, split_eq]

/-- The directories before a name do not matter to the name. -/
theorem fileName?_below (directory : String) {name : String} (isProper : IsProper name) :
    fileName? (directory ++ "/" ++ name) = fileName? name := by
  rw [fileName?, fileName?, components_below directory isProper, components_of_isProper isProper]
  simp

theorem fileName?_of_isProper {name : String} (isProper : IsProper name) :
    fileName? name = if name = ".." then none else some name := by
  rw [fileName?, components_of_isProper isProper]
  split_ifs with goesUp
  · rw [goesUp]
    rfl
  · simp [goesUp]

/-- A path is a name, or a name below a directory. -/
theorem isName_or_below (path : String) :
    IsName path ∨ ∃ directory name, IsName name ∧ path = directory ++ "/" ++ name := by
  by_cases isIn : '/' ∈ path.toList
  · right
    obtain ⟨behind, before, reverse_eq, isFree⟩ :=
      List.eq_append_cons_of_mem (List.mem_reverse.mpr isIn)
    refine ⟨String.ofList before.reverse, String.ofList behind.reverse, ?_, ?_⟩
    · rw [IsName, String.toList_ofList, List.mem_reverse]
      exact isFree
    · apply String.toList_inj.mp
      have list_eq := congrArg List.reverse reverse_eq
      rw [List.reverse_reverse] at list_eq
      rw [list_eq]
      simp
  · exact .inl isIn

/-- Where a path ends neither in a slash nor in a slash and a dot, it ends in the name of its file. -/
theorem suffix_of_fileName? {path name : String} (noSlash : ¬ ['/'] <:+ path.toList)
    (noDot : ¬ ['/', '.'] <:+ path.toList) (found : fileName? path = some name) :
    name.toList <:+ path.toList := by
  rcases isName_or_below path with isName | ⟨directory, last, isName, rfl⟩
  · have isProper : IsProper path := by
      refine ⟨isName, ?_, ?_⟩
      · rintro rfl
        cases found
      · rintro rfl
        cases found
    rw [fileName?_of_isProper isProper] at found
    split_ifs at found
    cases found
    exact List.suffix_rfl
  · have isProper : IsProper last := by
      refine ⟨isName, ?_, ?_⟩
      · rintro rfl
        exact noSlash (by simp)
      · rintro rfl
        exact noDot (by simp)
    rw [fileName?_below directory isProper, fileName?_of_isProper isProper] at found
    split_ifs at found
    cases found
    rw [toList_below]
    exact (List.suffix_cons '/' _).trans (List.suffix_append _ _)

/-! ## The extension of a name -/

/-- A name with an extension ends in a dot and the extension, which has no dots itself. -/
theorem extensionOfName?_ends {name extension : String}
    (found : extensionOfName? name = some extension) :
    (∃ stem, name.toList = stem ++ '.' :: extension.toList) ∧ '.' ∉ extension.toList := by
  rw [extensionOfName?, List.span_eq_takeWhile_dropWhile] at found
  have parts := List.takeWhile_append_dropWhile (p := (· != '.')) (l := name.toList.reverse)
  have noDots : '.' ∉ name.toList.reverse.takeWhile (· != '.') := fun isIn => by
    simpa using List.mem_takeWhile_imp isIn
  have firstIsDot := List.head?_dropWhile_not (· != '.') name.toList.reverse
  rcases behind_eq : name.toList.reverse.dropWhile (· != '.') with _ | ⟨dot, _ | ⟨last, before⟩⟩
  · rw [behind_eq] at found
    cases found
  · rw [behind_eq] at found
    cases found
  · rw [behind_eq] at found firstIsDot parts
    cases found
    obtain rfl : dot = '.' := bne_eq_false_iff_eq.mp firstIsDot
    rw [String.toList_ofList, List.mem_reverse]
    refine ⟨⟨(last :: before).reverse, ?_⟩, noDots⟩
    have name_eq := congrArg List.reverse parts
    rw [List.reverse_reverse, List.reverse_append, List.reverse_cons, List.append_assoc,
      List.singleton_append] at name_eq
    exact name_eq.symm

/-- Extensions are found in small letters where they are found in others. -/
theorem extensionOfName?_asciiLower (name : String) :
    extensionOfName? (asciiLower name) = (extensionOfName? name).map asciiLower := by
  have same : (fun character : Char => character.toLower != '.') = (· != '.') := by
    funext character
    rw [Bool.eq_iff_iff, bne_iff_ne, bne_iff_ne, ne_eq, ne_eq, toLower_eq_iff (by decide)]
  rw [extensionOfName?, extensionOfName?, toList_asciiLower, ← List.map_reverse,
    List.span_eq_takeWhile_dropWhile, List.span_eq_takeWhile_dropWhile, List.takeWhile_map,
    List.dropWhile_map, Function.comp_def, same]
  rcases name.toList.reverse.dropWhile (· != '.') with _ | ⟨dot, _ | ⟨character, rest⟩⟩
  · rfl
  · rfl
  · simp [asciiLower_ofList]

end Path

theorem splitAt_map_toLower (characters : List Char) :
    splitAt '/' (characters.map Char.toLower) =
      (splitAt '/' characters).map (List.map Char.toLower) := by
  induction characters with
  | nil => rfl
  | cons character rest ih =>
      have same : (character.toLower == '/') = (character == '/') := by
        rw [Bool.eq_iff_iff, beq_iff_eq, beq_iff_eq, toLower_eq_iff (by decide)]
      rw [List.map_cons, splitAt, splitAt, ih]
      cases splitAt '/' rest with
      | nil => rfl
      | cons first others =>
          rw [List.map_cons]
          dsimp only
          rw [same]
          split <;> rfl

namespace Path

theorem components_asciiLower (path : String) :
    components (asciiLower path) = (components path).map asciiLower := by
  have kept (part : String) : (asciiLower part != "" && asciiLower part != ".") =
      (part != "" && part != ".") := by
    have empty : asciiLower part = "" ↔ part = "" := asciiLower_eq_iff (by decide)
    have dot : asciiLower part = "." ↔ part = "." := asciiLower_eq_iff (by decide)
    rw [Bool.eq_iff_iff]
    simp only [Bool.and_eq_true, bne_iff_ne, ne_eq, empty, dot]
  have lowered : (splitAt '/' (asciiLower path).toList).map String.ofList =
      ((splitAt '/' path.toList).map String.ofList).map asciiLower := by
    simp [toList_asciiLower, splitAt_map_toLower, Function.comp_def, asciiLower_ofList]
  rw [components, components, lowered, List.filter_map]
  simp only [Function.comp_def, kept]

theorem fileName?_asciiLower (path : String) :
    fileName? (asciiLower path) = (fileName? path).map asciiLower := by
  rw [fileName?, fileName?, components_asciiLower, List.getLast?_map]
  cases (components path).getLast? with
  | none => rfl
  | some name =>
      rw [Option.map_some]
      by_cases goesUp : name = ".."
      · have same : asciiLower ".." = ".." := (asciiLower_eq_iff (by decide)).mpr rfl
        rw [goesUp, same]
        rfl
      · have stays : asciiLower name ≠ ".." := by
          rwa [ne_eq, asciiLower_eq_iff (by decide)]
        simp [goesUp, stays]

theorem extension?_asciiLower (path : String) :
    extension? (asciiLower path) = (extension? path).map asciiLower := by
  rw [extension?, extension?, fileName?_asciiLower]
  cases fileName? path with
  | none => rfl
  | some name => exact extensionOfName?_asciiLower name

end Path

/-! ## Categories and dialects -/

theorem Category.ofPath_asciiLower (path : String) : ofPath (asciiLower path) = ofPath path := by
  rw [ofPath, ofPath, Path.extension?_asciiLower]
  cases Path.extension? path with
  | none => rfl
  | some extension =>
      change ofExtension (asciiLower extension) = ofExtension extension
      rw [ofExtension, ofExtension, asciiLower_asciiLower]

theorem Script.Dialect.ofPath_asciiLower (path : String) : ofPath (asciiLower path) = ofPath path := by
  rw [ofPath, ofPath, asciiLower_asciiLower]

/-- Scripts are told by their extensions. -/
theorem Category.extension?_of_script {path : String} (isScript : ofPath path = script) :
    ∃ extension, Path.extension? path = some extension ∧
      asciiLower extension ∈ script.extensions := by
  rw [ofPath] at isScript
  cases found : Path.extension? path with
  | none =>
      rw [found] at isScript
      cases isScript
  | some extension =>
      rw [found, Option.elim_some, ofExtension, all, List.find?_cons] at isScript
      refine ⟨extension, rfl, ?_⟩
      rw [← List.contains_iff_mem]
      split at isScript
      · assumption
      · -- Scripts come first, so no other category is taken for them.
        cases later : List.find? (fun category => category.extensions.contains (asciiLower extension))
            [structuredData, markup, stylesheet, prose, media, unsupported] with
        | none =>
            rw [later] at isScript
            cases isScript
        | some category =>
            rw [later] at isScript
            cases isScript
            exact absurd (List.mem_of_find?_eq_some later) (by decide)

namespace Script.Dialect

theorem ofPath_eq_typescript_iff (path : String) :
    ofPath path = typescript ↔
      ∃ word ∈ ["ts", "mts", "cts"], '.' :: word.toList <:+ (asciiLower path).toList := by
  have endings_eq : [".ts", ".mts", ".cts"] = ["ts", "mts", "cts"].map ("." ++ ·) := by decide
  have isSome_iff (word : String) :
      (withoutSuffix? ("." ++ word) (asciiLower path)).isSome ↔
        '.' :: word.toList <:+ (asciiLower path).toList := by
    rw [← List.isSuffixOf_iff_suffix, withoutSuffix?, String.toList_append]
    split <;> simp_all
  rw [ofPath, endings_eq, List.any_map, List.any_eq]
  simp only [Function.comp_apply, isSome_iff]
  split <;> simp_all

theorem eq_of_typescript_iff {first second : Dialect}
    (same : first = typescript ↔ second = typescript) : first = second := by
  cases first <;> cases second <;> simp_all

/-- The directories before a name do not matter to the dialect. -/
theorem ofPath_below (directory name : String) : ofPath (directory ++ "/" ++ name) = ofPath name := by
  apply eq_of_typescript_iff
  rw [ofPath_eq_typescript_iff, ofPath_eq_typescript_iff]
  refine exists_congr fun word => and_congr_right fun isWord => ?_
  have noSlash : '/' ∉ '.' :: word.toList := by
    revert word
    decide
  rw [toList_asciiLower, Path.toList_below, List.map_append, List.map_cons, ← toList_asciiLower name,
    (toLower_eq_iff (by decide)).mpr rfl]
  exact suffix_append_cons_iff noSlash

/-- The dialect of a path that ends in a name goes by the extension of the name. -/
theorem ofPath_eq_typescript_iff_of_extension {path name extension : String}
    (isEnd : name.toList <:+ path.toList) (found : Path.extensionOfName? name = some extension) :
    ofPath path = typescript ↔ asciiLower extension ∈ ["ts", "mts", "cts"] := by
  obtain ⟨⟨stem, name_eq⟩, noDot⟩ := Path.extensionOfName?_ends found
  obtain ⟨front, path_eq⟩ := isEnd
  have lower_eq : (asciiLower path).toList =
      (front ++ stem).map Char.toLower ++ '.' :: (asciiLower extension).toList := by
    rw [toList_asciiLower, ← path_eq, name_eq, ← List.append_assoc, List.map_append, List.map_cons,
      ← toList_asciiLower extension, (toLower_eq_iff (by decide)).mpr rfl]
  have isLast : '.' ∉ (asciiLower extension).toList := by
    rwa [toList_asciiLower, mem_map_toLower_iff (by decide)]
  rw [ofPath_eq_typescript_iff]
  have isWord (word : String) (isIn : word ∈ ["ts", "mts", "cts"]) :
      '.' :: word.toList <:+ (asciiLower path).toList ↔ word = asciiLower extension := by
    have noDot : '.' ∉ word.toList := by
      revert word
      decide
    rw [lower_eq, cons_suffix_append_cons_iff noDot isLast, String.toList_inj]
  constructor
  · rintro ⟨word, isIn, isSuffix⟩
    exact (isWord word isIn).mp isSuffix ▸ isIn
  · intro isIn
    exact ⟨_, isIn, (isWord _ isIn).mpr rfl⟩

end Script.Dialect

/-- Where a path ends in the name of a file, the dialect of a script goes by the extension that makes it
a script.  Neither the category nor the dialect depends on the directories before a name, or on the case
of letters. -/
theorem category_and_dialect_go_by_extension :
    (∀ path : String, ¬ ['/'] <:+ path.toList → ¬ ['/', '.'] <:+ path.toList →
      Category.ofPath path = .script →
        (Script.Dialect.ofPath path = .typescript ↔
          ∃ extension, Path.extension? path = some extension ∧
            asciiLower extension ∈ ["ts", "mts", "cts"])) ∧
      ∀ directory name path : String, Path.IsProper name →
        asciiLower path = asciiLower name ∨
            asciiLower path = asciiLower (directory ++ "/" ++ name) →
          Category.ofPath path = Category.ofPath name ∧
            Script.Dialect.ofPath path = Script.Dialect.ofPath name := by
  constructor
  · intro path noSlash noDot isScript
    obtain ⟨extension, found, _⟩ := Category.extension?_of_script isScript
    obtain ⟨name, isFile, isExtension⟩ := Option.bind_eq_some_iff.mp found
    have isEnd := Path.suffix_of_fileName? noSlash noDot isFile
    rw [Script.Dialect.ofPath_eq_typescript_iff_of_extension isEnd isExtension]
    simp [found]
  · intro directory name path isProper same
    have category_eq : Category.ofPath (directory ++ "/" ++ name) = Category.ofPath name := by
      rw [Category.ofPath, Category.ofPath, Path.extension?, Path.extension?,
        Path.fileName?_below directory isProper]
    rw [← Category.ofPath_asciiLower path, ← Script.Dialect.ofPath_asciiLower path]
    rcases same with same | same
    · rw [same, Category.ofPath_asciiLower, Script.Dialect.ofPath_asciiLower]
      exact ⟨rfl, rfl⟩
    · rw [same, Category.ofPath_asciiLower, Script.Dialect.ofPath_asciiLower, category_eq,
        Script.Dialect.ofPath_below]
      exact ⟨rfl, rfl⟩

/-- A file with dots before its extension, behind directories with extensions of their own. -/
theorem category_and_dialect_of_dottedPaths :
    Category.ofPath "kit.js/.x.D.mTS" = .script ∧
      Script.Dialect.ofPath "kit.js/.x.D.mTS" = .typescript ∧
        Category.ofPath "KIT.TS/../a.D.tsx" = Category.ofPath "a.d.TSX" ∧
          Script.Dialect.ofPath "KIT.TS/../a.D.tsx" = Script.Dialect.ofPath "a.d.TSX" := by
  have isExtension : Path.extension? "kit.js/.x.D.mTS" = some "mTS" := by decide +kernel
  have isScript : Category.ofPath "kit.js/.x.D.mTS" = .script := by
    rw [Category.ofPath, isExtension]
    decide +kernel
  have sameLetters : asciiLower "KIT.TS/../a.D.tsx" = asciiLower ("kit.ts/.." ++ "/" ++ "a.d.TSX") := by
    apply String.toList_inj.mp
    rw [toList_asciiLower, toList_asciiLower]
    decide +kernel
  refine ⟨isScript, ?_, ?_⟩
  · exact (category_and_dialect_go_by_extension.1 "kit.js/.x.D.mTS" (by decide) (by decide)
      isScript).mpr ⟨"mTS", isExtension, by decide +kernel⟩
  · exact category_and_dialect_go_by_extension.2 "kit.ts/.." "a.d.TSX" _
      ⟨by decide, by decide, by decide⟩ (.inr sameLetters)

end RepoSurvey
