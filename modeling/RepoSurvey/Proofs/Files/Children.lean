import RepoSurvey.Proofs.Files.Extensions
import RepoSurvey.Proofs.Files.Ways

/-!
# Children of directories

An ordinary name below a directory adds one component to the path of the directory, and on a disk it
leads to something directly below the place of the directory.  Where a directory is there already, making
it together with the directories on the way makes nothing.
-/

namespace RepoSurvey

namespace Path

variable {name : String}

/-- A name that stands for a child of any directory. -/
structure IsOrdinary (name : String) : Prop extends IsProper name where
  ne_up : name ≠ ".."

/-- A path has the components of a directory and one more. -/
structure IsChild (directory name path : String) : Prop where
  isAbsolute : Path.isAbsolute path = Path.isAbsolute directory
  names : properNames path = properNames directory ++ [name]

/-! ## A name below a directory -/

theorem plainNames_below (directory rest : String) :
    plainNames (directory ++ "/" ++ rest) = plainNames directory ++ plainNames rest := by
  rw [plainNames, plainNames, plainNames, splitAt_eq_splitOn, splitAt_eq_splitOn, splitAt_eq_splitOn,
    toList_below, List.splitOn_append_cons_self, List.map_append, List.filter_append]

theorem plainNames_of_isName (isName : IsName name) (nonempty : name ≠ "") :
    plainNames name = [name] := by
  rw [plainNames, splitAt_eq_splitOn, List.splitOn_eq_singleton isName]
  simp [nonempty]

theorem isAbsolute_of_isName (isName : IsName name) : isAbsolute name = false := by
  rw [isAbsolute, beq_eq_false_iff_ne]
  intro isFirst
  exact isName (List.mem_of_mem_head? isFirst)

theorem eq_below_of_endsInSlash {directory : String} (ends : endsInSlash directory = true) :
    ∃ front, directory = front ++ "/" := by
  rw [endsInSlash, beq_iff_eq] at ends
  refine ⟨String.ofList directory.toList.dropLast, String.toList_inj.mp ?_⟩
  rw [String.toList_append, String.toList_ofList]
  exact (List.dropLast_append_getLast? '/' ends).symm

theorem plainNames_slash (front : String) : plainNames (front ++ "/") = plainNames front := by
  have names_eq := plainNames_below front ""
  rwa [String.append_empty, show plainNames "" = [] from rfl, List.append_nil] at names_eq

theorem plainNames_join (directory : String) (isName : IsName name) (nonempty : name ≠ "") :
    plainNames (join directory name) = plainNames directory ++ [name] := by
  rw [join, isAbsolute_of_isName isName, if_neg Bool.false_ne_true,
    ← plainNames_of_isName isName nonempty]
  by_cases isEmpty : directory = ""
  · rw [isEmpty]
    rfl
  · cases ends : endsInSlash directory with
    | false =>
        rw [if_neg (by simp [isEmpty]), plainNames_below]
    | true =>
        obtain ⟨front, rfl⟩ := eq_below_of_endsInSlash ends
        rw [if_pos (by simp), plainNames_below, plainNames_slash]

theorem isAbsolute_append {first : String} (rest : String) (nonempty : first ≠ "") :
    isAbsolute (first ++ rest) = isAbsolute first := by
  have isThere : first.toList ≠ [] := by simpa using nonempty
  rw [isAbsolute, isAbsolute, String.toList_append, List.head?_append_of_ne_nil _ isThere]

theorem join_eq_append (directory : String) (isName : IsName name) :
    ∃ rest, join directory name = directory ++ rest := by
  rw [join, isAbsolute_of_isName isName, if_neg Bool.false_ne_true]
  split
  · exact ⟨name, rfl⟩
  · exact ⟨"/" ++ name, String.append_assoc⟩

theorem isAbsolute_join (directory : String) (isName : IsName name) :
    isAbsolute (join directory name) = isAbsolute directory := by
  by_cases isEmpty : directory = ""
  · rw [isEmpty, join, isAbsolute_of_isName isName]
    exact isAbsolute_of_isName isName
  · obtain ⟨rest, join_eq⟩ := join_eq_append directory isName
    rw [join_eq, isAbsolute_append rest isEmpty]

/-- The dots that mean nothing are left out, but not one at the start of a relative path. -/
theorem properNames_cases (path : String) :
    ∃ first rest, plainNames path = first ++ rest ∧
      properNames path = first ++ rest.filter (· != ".") := by
  rw [properNames]
  split
  · rename_i rest names_eq
    split
    · exact ⟨[], "." :: rest, names_eq, by simp⟩
    · exact ⟨["."], rest, names_eq, rfl⟩
  · exact ⟨[], plainNames path, rfl, rfl⟩

theorem properNames_join (directory : String) (isProper : IsProper name) :
    properNames (join directory name) = properNames directory ++ [name] := by
  rw [properNames, properNames, plainNames_join directory isProper.isName isProper.nonempty,
    isAbsolute_join directory isProper.isName]
  rcases plainNames directory with _ | ⟨first, rest⟩
  · simp [isProper.ne_dot]
  · by_cases isDot : first = "."
    · subst isDot
      cases isAbsolute directory <;> simp [isProper.ne_dot]
    · simp [isDot, isProper.ne_dot]

theorem isChild_join (directory : String) (isProper : IsProper name) :
    IsChild directory name (join directory name) :=
  ⟨isAbsolute_join directory isProper.isName, properNames_join directory isProper⟩

/-! ## Directories above a path -/

theorem isName_of_mem_plainNames {path : String} (isIn : name ∈ plainNames path) :
    IsName name ∧ name ≠ "" := by
  rw [plainNames, List.mem_filter, bne_iff_ne] at isIn
  obtain ⟨part, isPart, rfl⟩ := List.mem_map.mp isIn.1
  refine ⟨?_, isIn.2⟩
  rw [IsName, String.toList_ofList]
  exact notMem_of_mem_splitAt isPart

theorem isName_of_mem_properNames {path : String} (isIn : name ∈ properNames path) :
    IsName name ∧ name ≠ "" := by
  obtain ⟨first, rest, plain_eq, proper_eq⟩ := properNames_cases path
  have isSublist : (properNames path).Sublist (plainNames path) := by
    rw [plain_eq, proper_eq]
    exact (List.append_sublist_append_left first).mpr List.filter_sublist
  exact isName_of_mem_plainNames (isSublist.subset isIn)

section OfNames

variable {names : List String} (areNames : ∀ name ∈ names, IsName name ∧ name ≠ "")

include areNames

theorem plainNames_intercalate : plainNames ("/".intercalate names) = names := by
  rcases names with _ | ⟨first, rest⟩
  · rfl
  · rw [plainNames, splitAt_intercalate (List.cons_ne_nil first rest) fun name isIn =>
      (areNames name isIn).1, List.filter_eq_self]
    intro name isIn
    simpa using (areNames name isIn).2

theorem isAbsolute_intercalate : isAbsolute ("/".intercalate names) = false := by
  rcases names with _ | ⟨first, rest⟩
  · rfl
  · obtain ⟨isName, nonempty⟩ := areNames first List.mem_cons_self
    cases rest with
    | nil =>
        rw [String.intercalate_singleton]
        exact isAbsolute_of_isName isName
    | cons second others =>
        rw [String.intercalate_cons_cons, String.append_assoc, isAbsolute_append _ nonempty]
        exact isAbsolute_of_isName isName

theorem plainNames_ofNames (absolute : Bool) : plainNames (ofNames absolute names) = names := by
  cases absolute with
  | false =>
      rw [ofNames, if_neg Bool.false_ne_true, String.empty_append]
      exact plainNames_intercalate areNames
  | true =>
      have below := plainNames_below "" ("/".intercalate names)
      rw [String.empty_append, plainNames_intercalate areNames] at below
      rw [ofNames, if_pos rfl, below]
      rfl

theorem isAbsolute_ofNames (absolute : Bool) : isAbsolute (ofNames absolute names) = absolute := by
  cases absolute with
  | false =>
      rw [ofNames, if_neg Bool.false_ne_true, String.empty_append]
      exact isAbsolute_intercalate areNames
  | true =>
      rw [ofNames, if_pos rfl, isAbsolute_append _ (by decide)]
      rfl

end OfNames

end Path

namespace Disk

variable {before after : Disk} {directory path name : String} {parent above : DiskPlace}

theorem checked_eq_ok_iff :
    checked path = .ok () ↔
      '\x00' ∉ path.toList ∧ path ≠ "" ∧ path.utf8ByteSize < Node.pathLimit := by
  rw [checked]
  split_ifs with hasEnd isEmpty isLong <;> simp_all

/-- The place of a directory. The empty path leads to where relative paths start. -/
structure Leads (disk : Disk) (directory : String) (place : DiskPlace) : Prop where
  isPlace : disk.place (if directory = "" then "." else directory) = .ok place
  isDirectory : disk.top.standingAt place = some .directory

/-- It does not matter whether a path asks for a directory where it leads to one. -/
theorem way_here_iff {top : Node} {links : Nat} {place found : DiskPlace} {names : List String}
    (isDirectory : top.standingAt found = some .directory) :
    (∃ left, Way top links place (names ++ ["."]) left found) ↔
      ∃ left, Way top links place names left found := by
  constructor
  · rintro ⟨left, way⟩
    exact ⟨left, by simpa using way.skip⟩
  · rintro ⟨left, way⟩
    exact ⟨left, way.append (.stay isDirectory (.done left found))⟩

theorem way_names_iff {top : Node} {links : Nat} {place found : DiskPlace}
    (isDirectory : top.standingAt found = some .directory) :
    (∃ left, Way top links place (Path.names path) left found) ↔
      ∃ left, Way top links place (Path.plainNames path) left found := by
  rw [Path.names]
  split
  · exact way_here_iff isDirectory
  · exact Iff.rfl

/-- A way along the plain names of a directory is enough to find its place. -/
theorem leads_iff :
    before.Leads directory parent ↔
      ((directory = "" ∨ checked directory = .ok ()) ∧
        ∃ left, Way before.top linkLimit (before.origin directory) (Path.plainNames directory) left
          parent) ∧ before.top.standingAt parent = some .directory := by
  have parts : before.Leads directory parent ↔
      before.place (if directory = "" then "." else directory) = .ok parent ∧
        before.top.standingAt parent = some .directory :=
    ⟨fun ⟨isPlace, isDirectory⟩ => ⟨isPlace, isDirectory⟩,
      fun ⟨isPlace, isDirectory⟩ => ⟨isPlace, isDirectory⟩⟩
  rw [parts, and_congr_left_iff, place_eq_ok_iff]
  intro isDirectory
  rw [way_names_iff isDirectory]
  by_cases isEmpty : directory = ""
  · subst isEmpty
    have isPath : checked "." = .ok () := by decide
    have sameWays : (∃ left, Way before.top linkLimit before.start ([] ++ ["."]) left parent) ↔
        ∃ left, Way before.top linkLimit before.start [] left parent := way_here_iff isDirectory
    rw [if_pos rfl]
    exact and_congr (iff_of_true isPath (.inl rfl)) sameWays
  · rw [if_neg isEmpty, or_iff_right isEmpty]

/-- An ordinary name below a directory leads to something directly below it. -/
theorem leads_of_entry_join (isOrdinary : Path.IsOrdinary name) {found : String}
    (isEntry : before.entry (Path.join directory name) = .ok (parent, some found)) :
    before.Leads directory parent ∧ found = name := by
  obtain ⟨isPath, way, isDirectory, isLast, _⟩ := entry_eq_ok_iff.mp isEntry
  rw [Path.plainNames_join directory isOrdinary.isName isOrdinary.nonempty] at way isLast
  rw [List.dropLast_concat, origin, Path.isAbsolute_join directory isOrdinary.isName] at way
  rw [List.getLast?_concat, Option.some.injEq] at isLast
  refine ⟨leads_iff.mpr ⟨⟨?_, way⟩, isDirectory⟩, isLast.symm⟩
  by_cases isEmpty : directory = ""
  · exact .inl isEmpty
  · -- The path of the directory is a start of the longer path, so nothing speaks against it either.
    obtain ⟨rest, join_eq⟩ := Path.join_eq_append directory isOrdinary.isName
    rw [join_eq, checked_eq_ok_iff, String.toList_append, List.mem_append, not_or,
      String.utf8ByteSize_append] at isPath
    exact .inr (checked_eq_ok_iff.mpr ⟨isPath.1.1, isEmpty, by omega⟩)

/-- The way to a directory goes on from the ways to the directories above it. -/
theorem Leads.way_above (leads : before.Leads directory parent)
    (isAbove : path ∈ directory :: Path.parents directory) :
    Path.isAbsolute path = Path.isAbsolute directory ∧
      ∃ left rest, Way before.top linkLimit (before.origin directory) (Path.plainNames path ++ rest)
        left parent := by
  obtain ⟨⟨_, left, way⟩, _⟩ := leads_iff.mp leads
  rcases List.mem_cons.mp isAbove with rfl | isParent
  · refine ⟨rfl, left, [], ?_⟩
    rwa [List.append_nil]
  · rw [Path.parents] at isParent
    obtain ⟨count, _, rfl⟩ := List.mem_map.mp isParent
    have areNames (name : String) (isIn : name ∈ (Path.properNames directory).take count) :
        IsName name ∧ name ≠ "" :=
      Path.isName_of_mem_properNames (List.mem_of_mem_take isIn)
    refine ⟨Path.isAbsolute_ofNames areNames _, left, (Path.properNames directory).drop count, ?_⟩
    rw [Path.plainNames_ofNames areNames, List.take_append_drop]
    obtain ⟨first, rest, plain_eq, proper_eq⟩ := Path.properNames_cases directory
    rw [plain_eq] at way
    rw [proper_eq]
    exact way.skip

/-- Where a directory is there, so is all that the paths of the directories above it name. -/
theorem Leads.named (leads : before.Leads directory parent)
    (isAbove : path ∈ directory :: Path.parents directory) (kept : WaysKept before.top after.top)
    (start : after.start = before.start) (isEntry : after.entry path = .ok (above, some name)) :
    before.top.standingAt (above ++ [name]) ≠ none := by
  obtain ⟨_, ⟨_, wayThere⟩, _, isLast, isName⟩ := entry_eq_ok_iff.mp isEntry
  obtain ⟨absolute, left, rest, way⟩ := leads.way_above isAbove
  rw [← List.dropLast_append_getLast? name isLast, List.append_assoc] at way
  obtain ⟨between, middle, wayAbove, wayOn⟩ := way.split
  obtain ⟨isDirectory, isThere⟩ := wayOn.first isName
  -- The way to the directory passes where the entry is, and it is there on the later disk too.
  have staysDirectory : after.top.Ends middle := ⟨.directory, kept.directory isDirectory, nofun⟩
  rw [origin, absolute, ← origin, origin_eq start] at wayThere
  rw [way_unique wayThere (kept.way wayAbove staysDirectory)]
  exact isThere

/-- Nothing is made where a directory is there already. -/
theorem Grown.unchanged (grown : Grown (directory :: Path.parents directory) before after)
    (leads : before.Leads directory parent) (place : DiskPlace) :
    after.top.standingAt place = before.top.standingAt place := by
  obtain same | ⟨absent, _, path, isAbove, above, name, isEntry, rfl⟩ := grown.places place
  · exact same
  · exact absurd absent (leads.named isAbove grown.waysKept grown.start isEntry)

/-- Directories are new only on the way to a directory that was missing; nothing else has changed. -/
structure Prepares (before : Disk) (directory : String) (after : Disk) : Prop where
  grown : Grown (directory :: Path.parents directory) before after
  unchanged : ∀ parent, before.Leads directory parent →
    ∀ place, after.top.standingAt place = before.top.standingAt place

theorem Grown.prepares (grown : Grown (directory :: Path.parents directory) before after) :
    before.Prepares directory after :=
  ⟨grown, fun _ => grown.unchanged⟩

/-- What has become of a disk after a file was to be kept directly below a directory. -/
inductive KeepsChild {ε α : Type} (before : Disk) (directory name : String) :
    Except ε α → Disk → Prop
  | failed (error : ε) {after : Disk} (prepares : before.Prepares directory after) :
      KeepsChild before directory name (.error error) after
  /-- A file stands under the name, in place of whatever stood there. -/
  | kept (result : α) {made after : Disk} {parent : DiskPlace} {content : ByteArray}
      (prepares : before.Prepares directory made) (leads : made.Leads directory parent)
      (notDirectory : made.top.standingAt (parent ++ [name]) ≠ some .directory)
      (places : ∀ place, after.top.standingAt place =
        if place = parent ++ [name] then some (.file content) else made.top.standingAt place) :
      KeepsChild before directory name (.ok result) after

/-- What stands anywhere else than under the name stays there. -/
theorem KeepsChild.stays {ε α : Type} {result : Except ε α}
    (keeps : before.KeepsChild directory name result after) {place : DiskPlace} {standing : Standing}
    (isThere : before.top.standingAt place = some standing) (isOther : place.getLast? ≠ some name) :
    after.top.standingAt place = some standing := by
  cases keeps with
  | failed _ prepares => exact prepares.grown.kept isThere
  | kept _ prepares _ _ places =>
      rw [places, if_neg, prepares.grown.kept isThere]
      rintro rfl
      exact isOther List.getLast?_concat

end Disk

end RepoSurvey
