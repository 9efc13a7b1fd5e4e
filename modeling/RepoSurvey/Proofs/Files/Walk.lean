import RepoSurvey.Proofs.Files.Joining
import RepoSurvey.Proofs.Text.Order

/-!
# What a walk finds

A walk comes to the leaves of a tree, which are its files and the directories that cannot be read,
in the order of their places: of the lists of names that lead to them.  It tells of the files until
it comes to a directory that cannot be read, and ignored directories hide what is below them.  It comes to
the same whether a walk does not enter ignored directories, or the files below them are left out of what
it finds in all directories.
-/

namespace RepoSurvey

namespace Listing

/-- What one comes to by following names. -/
inductive At : Listing → List String → Listing → Prop
  | here {listing : Listing} : At listing [] listing
  | inside {entries : List (String × Listing)} {name : String} {entry target : Listing}
      {rest : List String} (isEntry : (name, entry) ∈ entries) (isAt : At entry rest target) :
      At (directory entries) (name :: rest) target

/-- The entries of each directory have different names, which can be components of a path. -/
def Named (listing : Listing) : Prop :=
  ∀ place entries, listing.At place (directory entries) →
    (entries.map Prod.fst).Nodup ∧ ∀ name ∈ entries.map Prod.fst, IsName name

/-- At a place there is a file, and no directory on the way to it is ignored. -/
def Shows (listing : Listing) (ignored : IgnoredNames) (place : List String) (size : Nat) : Prop :=
  listing.At place (file size) ∧ ∀ name ∈ place.dropLast, ignored.ignores name = false

/-- At a place there is a directory that cannot be read. Neither it nor one on the way to it is
ignored. -/
def Blocks (listing : Listing) (ignored : IgnoredNames) (place : List String)
    (cause : SystemError) : Prop :=
  listing.At place (unreadable cause) ∧ ∀ name ∈ place, ignored.ignores name = false

/-- The path of a place below another path. -/
def pathTo (path : String) (place : List String) : String := place.foldl Path.join path

/-- What a walk tells of a file. -/
def foundAt (root : String) (file : List String × Nat) : FoundFile :=
  ⟨pathTo root file.1, "/".intercalate file.1, file.2⟩

/-- A place comes before another one when its names do, compared byte by byte. -/
def Before (left right : List String) : Prop :=
  List.Lex (fun name other => List.Lex (· < ·) (bytes name) (bytes other)) left right

/-- These are the files that no ignored directory hides, in the order of their places. -/
structure Lists (listing : Listing) (ignored : IgnoredNames) (files : List (List String × Nat)) :
    Prop where
  increasing : files.Pairwise fun left right => Before left.1 right.1
  mem_iff : ∀ place size, (place, size) ∈ files ↔ listing.Shows ignored place size

/-- A result of a walk is as the tree has it. -/
structure WalksInOrder (ignored : IgnoredNames) (root : String) (listing : Listing)
    (result : Except WalkError (List FoundFile)) : Prop where
  fails_iff :
    (∃ error, result = .error error) ↔ ∃ place cause, listing.Blocks ignored place cause
  first_of_error : ∀ error, result = .error error →
    ∃ place cause, error = .unreadable (pathTo root place) cause ∧
      listing.Blocks ignored place cause ∧
      ∀ other reason, listing.Blocks ignored other reason → other ≠ place → Before place other
  files_of_ok : ∀ found, result = .ok found →
    ∃ files, found = files.map (foundAt root) ∧ listing.Lists ignored files
  relatives_of_ok : ∀ found, result = .ok found → (found.map FoundFile.relative).Nodup

/-! ## Trees and places -/

@[elab_as_elim]
theorem induction {motive : Listing → Prop} (file : ∀ size, motive (file size))
    (directory : ∀ entries, (∀ name entry, (name, entry) ∈ entries → motive entry) →
      motive (directory entries))
    (unreadable : ∀ error, motive (unreadable error)) (other : motive other) :
    ∀ listing, motive listing
  | .file size => file size
  | .directory entries => directory entries fun _ entry _ =>
      induction file directory unreadable other entry
  | .unreadable error => unreadable error
  | .other => other
termination_by listing => sizeOf listing
decreasing_by
  have := List.sizeOf_lt_of_mem ‹_›
  simp_wf
  simp at this
  omega

theorem Named.entry {entries : List (String × Listing)} (named : (directory entries).Named)
    {name : String} {entry : Listing} (isEntry : (name, entry) ∈ entries) : entry.Named :=
  fun place _ isAt => named (name :: place) _ (.inside isEntry isAt)

theorem named_directory {entries : List (String × Listing)}
    (distinct : (entries.map Prod.fst).Nodup)
    (areNames : ∀ name ∈ entries.map Prod.fst, IsName name)
    (named : ∀ entry ∈ entries.map Prod.snd, entry.Named) : (directory entries).Named := by
  intro place _ isAt
  cases isAt with
  | here => exact ⟨distinct, areNames⟩
  | inside isEntry isAt => exact named _ (List.mem_map_of_mem isEntry) _ _ isAt

theorem named_of_not_directory {listing : Listing}
    (isLeaf : ∀ entries, listing ≠ directory entries) : listing.Named := by
  intro place entries isAt
  cases isAt with
  | here => exact absurd rfl (isLeaf entries)
  | inside => exact absurd rfl (isLeaf _)

theorem At.areNames {listing target : Listing} {place : List String}
    (isAt : listing.At place target) (named : listing.Named) : ∀ name ∈ place, IsName name := by
  induction isAt with
  | here => simp
  | @inside entries name entry _ rest isEntry _ ih =>
      have isName : IsName name := (named [] _ .here).2 name (List.mem_map_of_mem isEntry)
      exact List.forall_mem_cons.2 ⟨isName, ih (named.entry isEntry)⟩

theorem Before.asymm {left right : List String} (before : Before left right) :
    ¬ Before right left := by
  have names : Std.Asymm fun name other => List.Lex (· < ·) (bytes name) (bytes other) :=
    ⟨fun name other => asymm_of (List.Lex (· < ·))⟩
  exact asymm_of (List.Lex fun name other => List.Lex (· < ·) (bytes name) (bytes other)) before

theorem Before.ne {left right : List String} (before : Before left right) : left ≠ right := by
  rintro rfl
  exact before.asymm before

/-! ## The leaves of a tree -/

/-- Where a walk ends. -/
inductive Leaf
  | file (size : Nat)
  | blocked (error : SystemError)

namespace Leaf

def listing : Leaf → Listing
  | file size => .file size
  | blocked error => .unreadable error

/-- Those names on the way to a leaf that are names of directories. -/
def directories (place : List String) : Leaf → List String
  | file _ => place.dropLast
  | blocked _ => place

/-- A name at the start of the way counts when a directory has it. -/
theorem directories_cons {leaf : Leaf} {entry : Listing} {rest : List String}
    (isAt : entry.At rest leaf.listing) (name : String) :
    leaf.directories (name :: rest) =
      (if entry.isDirectory then [name] else []) ++ leaf.directories rest := by
  generalize reached : leaf.listing = target at isAt
  cases isAt with
  | here => subst reached; cases leaf <;> rfl
  | inside => cases leaf <;> rfl

end Leaf

mutual

/-- The leaves that a walk comes to, in the order in which it comes to them. -/
def leaves (ignored : IgnoredNames) : Listing → List (List String × Leaf)
  | file size => [([], .file size)]
  | directory entries =>
      (sortByName (leavesOfEntries ignored entries)).flatMap fun (name, leaves) =>
        leaves.map fun (place, leaf) => (name :: place, leaf)
  | unreadable error => [([], .blocked error)]
  | other => []

/-- The leaves below each entry of a directory. -/
def leavesOfEntries (ignored : IgnoredNames) :
    List (String × Listing) → List (String × List (List String × Leaf))
  | [] => []
  | (name, listing) :: rest =>
      (name, if listing.isDirectory && ignored.ignores name then [] else leaves ignored listing) ::
        leavesOfEntries ignored rest

end

theorem leavesOfEntries_eq_map (ignored : IgnoredNames) (entries : List (String × Listing)) :
    leavesOfEntries ignored entries = entries.map fun (name, entry) =>
      (name, if entry.isDirectory && ignored.ignores name then [] else entry.leaves ignored) := by
  induction entries with
  | nil => rfl
  | cons entry rest ih => rw [leavesOfEntries, ih, List.map_cons]

theorem filesOfEntries_eq_map (ignored : IgnoredNames) (path : String) (below : List String)
    (entries : List (String × Listing)) :
    filesOfEntries ignored path below entries = entries.map fun (name, entry) =>
      (name, if entry.isDirectory && ignored.ignores name then .ok []
        else entry.files ignored (Path.join path name) (below ++ [name])) := by
  induction entries with
  | nil => rfl
  | cons entry rest ih => rw [filesOfEntries, ih, List.map_cons]

/-- What a walk says about a leaf. -/
def report (path : String) (below : List String) :
    List String × Leaf → Except WalkError FoundFile
  | (place, .file size) => .ok ⟨pathTo path place, "/".intercalate (below ++ place), size⟩
  | (place, .blocked error) => .error (.unreadable (pathTo path place) error)

theorem report_cons (path : String) (below : List String) (name : String) (place : List String)
    (leaf : Leaf) :
    report path below (name :: place, leaf) =
      report (Path.join path name) (below ++ [name]) (place, leaf) := by
  cases leaf with
  | file size =>
      simp only [report, pathTo, List.foldl_cons, List.append_assoc, List.singleton_append]
  | blocked error => rfl

private theorem mapM_flatMap {ε α β γ : Type} (act : β → Except ε γ) (parts : α → List β)
    (all : List α) :
    (all.flatMap parts).mapM act =
      (all.mapM fun part => (parts part).mapM act).map List.flatten := by
  induction all with
  | nil => rfl
  | cons part rest ih =>
      rw [List.flatMap_cons, List.mapM_append, List.mapM_cons, ih]
      cases (parts part).mapM act with
      | error failure => rfl
      | ok first => cases rest.mapM fun part => (parts part).mapM act <;> rfl

/-- A walk goes through the leaves. -/
theorem files_eq_mapM (ignored : IgnoredNames) (listing : Listing) :
    ∀ path below,
      listing.files ignored path below = (listing.leaves ignored).mapM (report path below) := by
  induction listing using Listing.induction with
  | file size =>
      intro path below
      simp [files, leaves, report, pathTo]
  | unreadable error => intros; rfl
  | other => intros; rfl
  | directory entries ih =>
      intro path below
      let told (name : String) (leaves : List (List String × Leaf)) :=
        leaves.mapM (report (Path.join path name) (below ++ [name]))
      have reported : filesOfEntries ignored path below entries =
          (leavesOfEntries ignored entries).map fun entry => (entry.1, told entry.1 entry.2) := by
        rw [filesOfEntries_eq_map, leavesOfEntries_eq_map, List.map_map]
        refine List.map_congr_left fun (name, entry) isEntry => ?_
        simp only [Function.comp_apply, told]
        split
        · rfl
        · rw [ih name entry isEntry]
      calc files ignored path below (directory entries)
        _ = ((sortByName (filesOfEntries ignored path below entries)).mapM Prod.snd).map
              List.flatten := by rw [files, inNameOrder, sortByName]
        _ = ((sortByName (leavesOfEntries ignored entries)).mapM fun entry =>
              told entry.1 entry.2).map List.flatten := by
            rw [reported, sortByName_map, List.mapM_map]
            rfl
        _ = (leaves ignored (directory entries)).mapM (report path below) := by
            rw [leaves, mapM_flatMap]
            simp only [List.mapM_map, Function.comp_def, report_cons, told]

private theorem mem_leaf_iff (ignored : IgnoredNames) (single : Leaf) (place : List String)
    (leaf : Leaf) :
    (place, leaf) ∈ [([], single)] ↔ single.listing.At place leaf.listing ∧
      ∀ name ∈ leaf.directories place, ignored.ignores name = false := by
  rw [List.mem_singleton, Prod.mk.injEq]
  constructor
  · rintro ⟨rfl, rfl⟩
    exact ⟨.here, by cases leaf <;> simp [Leaf.directories]⟩
  · rintro ⟨isAt, -⟩
    cases single <;> cases leaf <;> cases isAt <;> exact ⟨rfl, rfl⟩

/-- A walk comes to the leaves that no ignored directory hides, and to nothing else. -/
theorem mem_leaves (ignored : IgnoredNames) (listing : Listing) :
    ∀ place leaf, (place, leaf) ∈ listing.leaves ignored ↔
      listing.At place leaf.listing ∧
        ∀ name ∈ leaf.directories place, ignored.ignores name = false := by
  induction listing using Listing.induction with
  | file size => exact mem_leaf_iff ignored (.file size)
  | unreadable error => exact mem_leaf_iff ignored (.blocked error)
  | other =>
      intro place leaf
      constructor
      · intro isLeaf
        cases isLeaf
      · rintro ⟨isAt, -⟩
        cases leaf <;> cases isAt
  | directory entries ih =>
      intro place leaf
      simp only [leaves, List.mem_flatMap, mem_sortByName, leavesOfEntries_eq_map, List.mem_map,
        Prod.exists, Prod.mk.injEq]
      constructor
      · rintro ⟨_, _, ⟨name, entry, isEntry, rfl, rfl⟩, rest, _, isFound, rfl, rfl⟩
        split at isFound
        · cases isFound
        · next enters =>
            obtain ⟨isAt, open_⟩ := (ih name entry isEntry rest _).1 isFound
            refine ⟨.inside isEntry isAt, ?_⟩
            rw [Leaf.directories_cons isAt, List.forall_mem_append]
            refine ⟨?_, open_⟩
            split
            · simpa [*] using enters
            · simp
      · rintro ⟨isAt, open_⟩
        generalize reached : leaf.listing = target at isAt
        cases isAt with
        | here => cases leaf <;> cases reached
        | @inside _ name entry _ rest isEntry isAt =>
            subst reached
            rw [Leaf.directories_cons isAt, List.forall_mem_append] at open_
            refine ⟨name, _, ⟨name, entry, isEntry, rfl, rfl⟩, rest, leaf, ?_, rfl, rfl⟩
            rw [if_neg]
            · exact (ih name entry isEntry rest leaf).2 ⟨isAt, open_.2⟩
            · intro hidden
              simp_all

/-- The leaves come in the order of their places. -/
theorem leaves_pairwise (ignored : IgnoredNames) (listing : Listing) (named : listing.Named) :
    (listing.leaves ignored).Pairwise fun left right => Before left.1 right.1 := by
  induction listing using Listing.induction with
  | file size => exact List.pairwise_singleton _ _
  | unreadable error => exact List.pairwise_singleton _ _
  | other => exact .nil
  | directory entries ih =>
      have distinct : ((leavesOfEntries ignored entries).map Prod.fst).Nodup := by
        have := (named [] entries .here).1
        rwa [leavesOfEntries_eq_map, List.map_map]
      rw [leaves, List.pairwise_flatMap]
      refine ⟨fun (name, found) isEntry => ?_, ?_⟩
      · have : found.Pairwise fun left right => Before left.1 right.1 := by
          rw [mem_sortByName, leavesOfEntries_eq_map, List.mem_map] at isEntry
          obtain ⟨⟨_, entry⟩, isEntry, entryFound⟩ := isEntry
          obtain ⟨rfl, rfl⟩ := Prod.mk.inj entryFound
          split
          · exact .nil
          · exact ih _ entry isEntry (named.entry isEntry)
        exact List.pairwise_map.2 (this.imp fun before => .cons before)
      · refine (sortByName_increasing distinct).imp fun isLess => ?_
        simp only [List.forall_mem_map]
        exact fun _ _ _ _ => .rel (lex_bytes_of_lt isLess)

/-! ## Results of a walk -/

/-- A walk tells of all leaves, which are files then, or of the first one that is not. -/
theorem mapM_report (root : String) (leaves : List (List String × Leaf)) :
    (∃ files : List (List String × Nat), leaves = files.map (Prod.map id .file) ∧
      leaves.mapM (report root []) = .ok (files.map (foundAt root))) ∨
    ∃ (files : List (List String × Nat)) (place : List String) (cause : SystemError)
        (rest : List (List String × Leaf)),
      leaves = files.map (Prod.map id .file) ++ (place, .blocked cause) :: rest ∧
      leaves.mapM (report root []) = .error (.unreadable (pathTo root place) cause) := by
  induction leaves with
  | nil => exact .inl ⟨[], rfl, rfl⟩
  | cons leaf others ih =>
      rw [List.mapM_cons]
      match leaf with
      | (place, .blocked cause) => exact .inr ⟨[], place, cause, others, rfl, rfl⟩
      | (place, .file size) =>
          obtain ⟨files, rfl, told⟩ | ⟨files, first, cause, rest, rfl, told⟩ := ih
          · rw [told]
            exact .inl ⟨(place, size) :: files, rfl, rfl⟩
          · rw [told]
            exact .inr ⟨(place, size) :: files, first, cause, rest, rfl, rfl⟩

theorem mem_leaves_of_file (ignored : IgnoredNames) (listing : Listing) (place : List String)
    (size : Nat) :
    (place, .file size) ∈ listing.leaves ignored ↔ listing.Shows ignored place size :=
  mem_leaves ignored listing place (.file size)

theorem mem_leaves_of_blocked (ignored : IgnoredNames) (listing : Listing) (place : List String)
    (cause : SystemError) :
    (place, .blocked cause) ∈ listing.leaves ignored ↔ listing.Blocks ignored place cause :=
  mem_leaves ignored listing place (.blocked cause)

theorem mem_files_iff {files : List (List String × Nat)} {place : List String} {size : Nat} :
    (place, Leaf.file size) ∈ files.map (Prod.map id .file) ↔ (place, size) ∈ files := by
  simp

theorem not_mem_files {files : List (List String × Nat)} {place : List String}
    {cause : SystemError} : (place, Leaf.blocked cause) ∉ files.map (Prod.map id .file) := by
  simp

theorem At.ne_nil_of_file {listing : Listing} (isDirectory : listing.isDirectory)
    {place : List String} {size : Nat} (isAt : listing.At place (file size)) : place ≠ [] := by
  rintro rfl
  cases isAt
  cases isDirectory

/-- The components of a file below a directory can be read off what the walk tells of it. -/
theorem relatives_nodup {listing : Listing} (isDirectory : listing.isDirectory)
    (named : listing.Named) {ignored : IgnoredNames} {files : List (List String × Nat)}
    (lists : listing.Lists ignored files) (root : String) :
    ((files.map (foundAt root)).map FoundFile.relative).Nodup := by
  have place_eq {file : List String × Nat} (isIn : file ∈ files) :
      (splitAt '/' (foundAt root file).relative.toList).map String.ofList = file.1 := by
    have isAt := ((lists.mem_iff file.1 file.2).1 isIn).1
    exact splitAt_intercalate (isAt.ne_nil_of_file isDirectory) (isAt.areNames named)
  rw [List.map_map]
  refine List.pairwise_map.2 (lists.increasing.imp_of_mem fun isLeft isRight before same => ?_)
  refine before.ne ?_
  rw [← place_eq isLeft, ← place_eq isRight]
  exact congrArg (fun relative => (splitAt '/' relative.toList).map String.ofList) same

/-- A walk either finds the files that no ignored directory hides, and there is no directory that it
cannot read, or tells of the first such directory. -/
theorem walk_cases (ignored : IgnoredNames) (root : String) {listing : Listing}
    (isDirectory : listing.isDirectory) (named : listing.Named) :
    (∃ files, walk ignored root (.ok listing) = .ok (files.map (foundAt root)) ∧
      listing.Lists ignored files ∧ ∀ place cause, ¬ listing.Blocks ignored place cause) ∨
    ∃ first cause,
      walk ignored root (.ok listing) = .error (.unreadable (pathTo root first) cause) ∧
      listing.Blocks ignored first cause ∧
      ∀ other reason, listing.Blocks ignored other reason → other ≠ first → Before first other := by
  have walked : walk ignored root (.ok listing) =
      (listing.leaves ignored).mapM (report root []) := by
    rw [walk, if_pos isDirectory, files_eq_mapM]
  have increasing := leaves_pairwise ignored listing named
  have isFile := mem_leaves_of_file ignored listing
  have isBlocked := mem_leaves_of_blocked ignored listing
  rw [walked]
  obtain ⟨files, all, told⟩ | ⟨files, first, cause, rest, all, told⟩ :=
    mapM_report root (listing.leaves ignored)
  · rw [all] at isFile isBlocked increasing
    rw [List.pairwise_map] at increasing
    refine .inl ⟨files, told, ⟨increasing, fun place size => ?_⟩, fun place cause blocks => ?_⟩
    · rw [← isFile, mem_files_iff]
    · exact not_mem_files ((isBlocked place cause).2 blocks)
  · rw [all, List.pairwise_append] at increasing
    have blocks : listing.Blocks ignored first cause := by
      rw [← isBlocked, all]
      exact List.mem_append_right _ List.mem_cons_self
    refine .inr ⟨first, cause, told, blocks, fun other reason isOther differs => ?_⟩
    rw [← isBlocked, all, List.mem_append, List.mem_cons] at isOther
    obtain isOther | isOther | isOther := isOther
    · exact absurd isOther not_mem_files
    · exact absurd (Prod.mk.inj isOther).1 differs
    · exact (List.pairwise_cons.1 increasing.2.1).1 _ isOther

/-- A walk fails exactly when it comes to a directory that it cannot read, and tells of the first
one. Otherwise it finds the files that no ignored directory hides, in the order of their places. -/
theorem walk_in_order (ignored : IgnoredNames) (root : String) (listing : Listing)
    (isDirectory : listing.isDirectory) (named : listing.Named) :
    WalksInOrder ignored root listing (walk ignored root (.ok listing)) := by
  obtain ⟨files, told, lists, noneBlocks⟩ | ⟨first, cause, told, blocks, isFirst⟩ :=
    walk_cases ignored root isDirectory named
  · rw [told]
    refine ⟨⟨by simp, ?_⟩, by simp, ?_, ?_⟩
    · rintro ⟨place, cause, blocks⟩
      exact absurd blocks (noneBlocks place cause)
    · rintro found ⟨⟩
      exact ⟨files, rfl, lists⟩
    · rintro found ⟨⟩
      exact relatives_nodup isDirectory named lists root
  · rw [told]
    refine ⟨⟨fun _ => ⟨first, cause, blocks⟩, fun _ => ⟨_, rfl⟩⟩, ?_, by simp, by simp⟩
    rintro error ⟨⟩
    exact ⟨first, cause, rfl, blocks, isFirst⟩

/-- A directory with an ignored directory that cannot be read, and names that are not in order. -/
def orchard : Listing :=
  .directory [
    ("node_modules", .unreadable .notFound),
    ("a.js", .file 1),
    ("a", .directory [("x", .file 2), ("node_modules", .file 3), ("way", .other)])]

theorem walk_of_orchard_in_order :
    orchard.isDirectory ∧ orchard.Named ∧
      WalksInOrder .standard "orchard" orchard (walk .standard "orchard" (.ok orchard)) := by
  have named : orchard.Named := by
    refine named_directory (by decide) (by decide) ?_
    simp only [List.map_cons, List.map_nil, List.forall_mem_cons]
    refine ⟨named_of_not_directory nofun, named_of_not_directory nofun, ?_, nofun⟩
    refine named_directory (by decide) (by decide) ?_
    simp only [List.map_cons, List.map_nil, List.forall_mem_cons]
    exact ⟨named_of_not_directory nofun, named_of_not_directory nofun,
      named_of_not_directory nofun, nofun⟩
  exact ⟨rfl, named, walk_in_order .standard "orchard" orchard rfl named⟩

/-! ## Leaving out ignored directories -/

section Pruning

variable {listing : Listing} {ignored : IgnoredNames} {files others : List (List String × Nat)}

/-- A tree has one list of files. -/
theorem Lists.unique (lists : listing.Lists ignored files) (listed : listing.Lists ignored others) :
    files = others := by
  have : Std.Asymm fun left right : List String × Nat => Before left.1 right.1 :=
    ⟨fun _ _ before => before.asymm⟩
  refine lists.increasing.eq_of_mem_iff listed.increasing fun file => ?_
  rw [lists.mem_iff, listed.mem_iff]

/-- The files that no ignored directory hides are those with no ignored name before the last one. -/
theorem Lists.prune (lists : listing.Lists [] files) (ignored : IgnoredNames) :
    listing.Lists ignored (files.filter fun file => !file.1.dropLast.any ignored.ignores) := by
  refine ⟨lists.increasing.filter _, fun place size => ?_⟩
  have nothingIgnored : listing.Shows [] place size ↔ listing.At place (.file size) :=
    and_iff_left fun name _ => rfl
  rw [List.mem_filter, lists.mem_iff, nothingIgnored, Shows]
  simp only [Bool.not_eq_true', List.any_eq_false, Bool.not_eq_true]

/-- The path of a file says whether a directory on the way to it is ignored. -/
theorem Lists.ignoresPath (lists : listing.Lists ignored files) (isDirectory : listing.isDirectory)
    (named : listing.Named) (names : IgnoredNames) {file : List String × Nat} (isIn : file ∈ files) :
    names.ignoresPath ("/".intercalate file.1) = file.1.dropLast.any names.ignores := by
  have isAt := ((lists.mem_iff file.1 file.2).1 isIn).1
  exact names.ignoresPath_intercalate (isAt.ne_nil_of_file isDirectory) (isAt.areNames named)

/-- A walk through a tree without unreadable directories finds its files. -/
theorem walk_of_readable (ignored : IgnoredNames) (root : String) (isDirectory : listing.isDirectory)
    (named : listing.Named) (readable : ∀ place cause, ¬ listing.At place (.unreadable cause)) :
    ∃ files, walk ignored root (.ok listing) = .ok (files.map (foundAt root)) ∧
      listing.Lists ignored files := by
  obtain ⟨files, told, lists, _⟩ | ⟨first, cause, _, blocks, _⟩ :=
    walk_cases ignored root isDirectory named
  · exact ⟨files, told, lists⟩
  · exact absurd blocks.1 (readable first cause)

/-- A walk that does not enter ignored directories finds the files whose paths are not ignored. -/
theorem Lists.walk_eq_filter (lists : listing.Lists [] files) (ignored : IgnoredNames) (root : String)
    (isDirectory : listing.isDirectory) (named : listing.Named)
    (readable : ∀ place cause, ¬ listing.At place (.unreadable cause)) :
    walk ignored root (.ok listing) = .ok ((files.filter fun file =>
      !ignored.ignoresPath ("/".intercalate file.1)).map (foundAt root)) := by
  obtain ⟨shown, walked, shownLists⟩ := walk_of_readable ignored root isDirectory named readable
  have same : (files.filter fun file => !file.1.dropLast.any ignored.ignores) =
      files.filter fun file => !ignored.ignoresPath ("/".intercalate file.1) :=
    List.filter_congr fun file isIn => by rw [lists.ignoresPath isDirectory named ignored isIn]
  rw [walked, shownLists.unique (lists.prune ignored), same]

end Pruning

end Listing
end RepoSurvey
