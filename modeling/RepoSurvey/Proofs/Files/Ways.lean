import RepoSurvey.Proofs.Files.Trees

/-!
# Ways through a tree

A way follows names from place to place, through directories and links.  A tree that keeps its
directories and links keeps all ways through it, whatever becomes of its files.
-/

namespace RepoSurvey

open Node (nameLimit)

/-- A name that can stand in a directory. -/
structure IsEntryName (name : String) : Prop where
  notHere : name ≠ "."
  notAbove : name ≠ ".."
  isShort : name.utf8ByteSize ≤ nameLimit

/-- What is at a place and is no link. -/
def Node.Ends (top : Node) (place : DiskPlace) : Prop :=
  ∃ standing, top.standingAt place = some standing ∧ ∀ target, standing ≠ .link target

/-- `Way top links place names left found`: names lead from one place to another one. Links are
followed; of those that may be followed some are left. -/
inductive Way (top : Node) : Nat → DiskPlace → List String → Nat → DiskPlace → Prop
  | done (links : Nat) (place : DiskPlace) : Way top links place [] links place
  | stay {links left : Nat} {place found : DiskPlace} {rest : List String}
      (isDirectory : top.standingAt place = some .directory)
      (goesOn : Way top links place rest left found) : Way top links place ("." :: rest) left found
  | rise {links left : Nat} {place found : DiskPlace} {rest : List String}
      (isDirectory : top.standingAt place = some .directory)
      (goesOn : Way top links place.dropLast rest left found) :
      Way top links place (".." :: rest) left found
  | step {links left : Nat} {place found : DiskPlace} {name : String} {rest : List String}
      (isDirectory : top.standingAt place = some .directory) (isName : IsEntryName name)
      (ends : top.Ends (place ++ [name]))
      (goesOn : Way top links (place ++ [name]) rest left found) :
      Way top links place (name :: rest) left found
  | jump {links left : Nat} {place found : DiskPlace} {name target : String} {rest : List String}
      (isDirectory : top.standingAt place = some .directory) (isName : IsEntryName name)
      (isLink : top.standingAt (place ++ [name]) = some (.link target))
      (goesOn : Way top links (if Path.isAbsolute target then [] else place)
        (Path.names target ++ rest) left found) :
      Way top (links + 1) place (name :: rest) left found

namespace Way

variable {top later : Node} {links left : Nat} {place found : DiskPlace} {names others : List String}

theorem append {last : Nat} {goal : DiskPlace} (first : Way top links place names left found)
    (second : Way top left found others last goal) :
    Way top links place (names ++ others) last goal := by
  induction first with
  | done => exact second
  | stay isDirectory _ ih => exact stay isDirectory (ih second)
  | rise isDirectory _ ih => exact rise isDirectory (ih second)
  | step isDirectory isName ends _ ih => exact step isDirectory isName ends (ih second)
  | jump isDirectory isName isLink _ ih =>
      apply jump isDirectory isName isLink
      have goesOn := ih second
      rwa [List.append_assoc] at goesOn

/-- The names of a way can be followed in two turns. -/
theorem split (way : Way top links place (names ++ others) left found) :
    ∃ between middle, Way top links place names between middle ∧
      Way top between middle others left found := by
  generalize all_eq : names ++ others = all at way
  induction way generalizing names with
  | done links place =>
      obtain ⟨rfl, rfl⟩ := List.append_eq_nil_iff.mp all_eq
      exact ⟨links, place, .done links place, .done links place⟩
  | stay isDirectory goesOn ih =>
      obtain ⟨rfl, rfl⟩ | ⟨names, rfl, rfl⟩ := List.append_eq_cons_iff.mp all_eq
      · exact ⟨_, _, .done _ _, .stay isDirectory goesOn⟩
      · obtain ⟨between, middle, first, second⟩ := ih rfl
        exact ⟨between, middle, .stay isDirectory first, second⟩
  | rise isDirectory goesOn ih =>
      obtain ⟨rfl, rfl⟩ | ⟨names, rfl, rfl⟩ := List.append_eq_cons_iff.mp all_eq
      · exact ⟨_, _, .done _ _, .rise isDirectory goesOn⟩
      · obtain ⟨between, middle, first, second⟩ := ih rfl
        exact ⟨between, middle, .rise isDirectory first, second⟩
  | step isDirectory isName ends goesOn ih =>
      obtain ⟨rfl, rfl⟩ | ⟨names, rfl, rfl⟩ := List.append_eq_cons_iff.mp all_eq
      · exact ⟨_, _, .done _ _, .step isDirectory isName ends goesOn⟩
      · obtain ⟨between, middle, first, second⟩ := ih rfl
        exact ⟨between, middle, .step isDirectory isName ends first, second⟩
  | jump isDirectory isName isLink goesOn ih =>
      obtain ⟨rfl, rfl⟩ | ⟨names, rfl, rfl⟩ := List.append_eq_cons_iff.mp all_eq
      · exact ⟨_, _, .done _ _, .jump isDirectory isName isLink goesOn⟩
      · obtain ⟨between, middle, first, second⟩ := ih (List.append_assoc _ _ _)
        exact ⟨between, middle, .jump isDirectory isName isLink first, second⟩

/-- Single dots lead nowhere else. -/
theorem skip (way : Way top links place (names ++ others) left found) :
    Way top links place (names ++ others.filter (· != ".")) left found := by
  generalize all_eq : names ++ others = all at way
  induction way generalizing names others with
  | done links place =>
      obtain ⟨rfl, rfl⟩ := List.append_eq_nil_iff.mp all_eq
      exact .done links place
  | stay isDirectory goesOn ih =>
      obtain ⟨rfl, rfl⟩ | ⟨names, rfl, rfl⟩ := List.append_eq_cons_iff.mp all_eq
      · rw [List.filter_cons_of_neg (by simp)]
        exact ih (List.nil_append _)
      · exact .stay isDirectory (ih rfl)
  | rise isDirectory goesOn ih =>
      obtain ⟨rfl, rfl⟩ | ⟨names, rfl, rfl⟩ := List.append_eq_cons_iff.mp all_eq
      · exact .rise isDirectory (ih (List.nil_append _))
      · exact .rise isDirectory (ih rfl)
  | step isDirectory isName ends goesOn ih =>
      obtain ⟨rfl, rfl⟩ | ⟨names, rfl, rfl⟩ := List.append_eq_cons_iff.mp all_eq
      · rw [List.filter_cons_of_pos (by simpa using isName.notHere)]
        exact .step isDirectory isName ends (ih (List.nil_append _))
      · exact .step isDirectory isName ends (ih rfl)
  | jump isDirectory isName isLink goesOn ih =>
      obtain ⟨rfl, rfl⟩ | ⟨names, rfl, rfl⟩ := List.append_eq_cons_iff.mp all_eq
      · rw [List.filter_cons_of_pos (by simpa using isName.notHere)]
        exact .jump isDirectory isName isLink (ih rfl)
      · have goesOnWithout := ih (List.append_assoc _ names others)
        rw [List.append_assoc] at goesOnWithout
        exact .jump isDirectory isName isLink goesOnWithout

/-- No way leads on from what is no directory. -/
theorem stuck (notDirectory : top.standingAt place ≠ some .directory)
    (way : Way top links place names left found) : names = [] ∧ found = place := by
  cases way with
  | done => exact ⟨rfl, rfl⟩
  | stay isDirectory | rise isDirectory | step isDirectory | jump isDirectory =>
      exact absurd isDirectory notDirectory

/-- Where a way starts, and where its first name leads to, something stands. -/
theorem first {name : String} {rest : List String} (way : Way top links place (name :: rest) left found)
    (isName : IsEntryName name) :
    top.standingAt place = some .directory ∧ top.standingAt (place ++ [name]) ≠ none := by
  cases way with
  | stay => exact absurd rfl isName.notHere
  | rise => exact absurd rfl isName.notAbove
  | step isDirectory _ ends =>
      obtain ⟨standing, isThere, _⟩ := ends
      exact ⟨isDirectory, by simp [isThere]⟩
  | jump isDirectory _ isLink => exact ⟨isDirectory, by simp [isLink]⟩

end Way

/-- The directories and links of a tree stand in another one as well. -/
structure WaysKept (top later : Node) : Prop where
  directory : ∀ {place}, top.standingAt place = some .directory →
    later.standingAt place = some .directory
  link : ∀ {place target}, top.standingAt place = some (.link target) →
    later.standingAt place = some (.link target)

theorem WaysKept.way {top later : Node} {links left : Nat} {place found : DiskPlace}
    {names : List String} (kept : WaysKept top later)
    (way : Way top links place names left found) (ends : later.Ends found) :
    Way later links place names left found := by
  induction way with
  | done links place => exact .done links place
  | stay isDirectory _ ih => exact .stay (kept.directory isDirectory) (ih ends)
  | rise isDirectory _ ih => exact .rise (kept.directory isDirectory) (ih ends)
  | @step links left place found name rest isDirectory isName endsThere goesOn ih =>
      refine .step (kept.directory isDirectory) isName ?_ (ih ends)
      by_cases isBetween : top.standingAt (place ++ [name]) = some .directory
      · exact ⟨.directory, kept.directory isBetween, nofun⟩
      · obtain ⟨_, rfl⟩ := goesOn.stuck isBetween
        exact ends
  | jump isDirectory isName isLink _ ih =>
      exact .jump (kept.directory isDirectory) isName (kept.link isLink) (ih ends)

namespace Disk

variable {disk before after : Disk} {path : String} {parent found : DiskPlace} {name : String}

/-- Where names are followed to there is a way, if there is one behind each link. -/
theorem way_of_followNames {top : Node} {links : Nat}
    {jump : DiskPlace → List String → Except SystemError DiskPlace}
    (jumps : ∀ place names found, jump place names = .ok found →
      ∃ fewer left, links = fewer + 1 ∧ Way top fewer place names left found)
    {place : DiskPlace} {names : List String}
    (isFound : followNames top jump place names = .ok found) :
    ∃ left, Way top links place names left found := by
  fun_induction followNames top jump place names
  case case1 place =>
    cases isFound
    exact ⟨links, .done links _⟩
  case case2 entries isDirectory isHere ih =>
    obtain ⟨left, goesOn⟩ := ih isFound
    rw [beq_iff_eq] at isHere
    subst isHere
    exact ⟨left, .stay (Node.standingAt_eq_directory_iff.mpr ⟨entries, isDirectory⟩) goesOn⟩
  case case3 entries isDirectory _ isAbove ih =>
    obtain ⟨left, goesOn⟩ := ih isFound
    rw [beq_iff_eq] at isAbove
    subst isAbove
    exact ⟨left, .rise (Node.standingAt_eq_directory_iff.mpr ⟨entries, isDirectory⟩) goesOn⟩
  case case6 entries isDirectory notHere notAbove notLong target isLink =>
    -- One of the jumps that are left is used up.
    obtain ⟨fewer, left, rfl, goesOn⟩ := jumps _ _ _ isFound
    refine ⟨left, .jump (Node.standingAt_eq_directory_iff.mpr ⟨entries, isDirectory⟩)
      ⟨by simpa using notHere, by simpa using notAbove, Nat.not_lt.mp notLong⟩ ?_ goesOn⟩
    rw [Node.standingAt, isLink]
    rfl
  case case7 entries isDirectory notHere notAbove notLong node notLink isThere ih =>
    obtain ⟨left, goesOn⟩ := ih isFound
    refine ⟨left, .step (Node.standingAt_eq_directory_iff.mpr ⟨entries, isDirectory⟩)
      ⟨by simpa using notHere, by simpa using notAbove, Nat.not_lt.mp notLong⟩
      ⟨node.standing, ?_, ?_⟩ goesOn⟩
    · rw [Node.standingAt, isThere]
      rfl
    · intro target isLink
      cases node with
      | link other => exact notLink other rfl
      | file | directory => cases isLink
  all_goals cases isFound

/-- What following names from a directory comes to depends on what stands there. -/
theorem follow_cons {top : Node} {place : DiskPlace} (links : Nat) (rest : List String)
    (isDirectory : top.standingAt place = some .directory) (isName : IsEntryName name) :
    follow top links place (name :: rest) =
      match top.standingAt (place ++ [name]), links with
      | none, _ => .error .notFound
      | some (.link _), 0 => .error .tooManyLinks
      | some (.link target), links + 1 =>
          follow top links (if Path.isAbsolute target then [] else place)
            (Path.names target ++ rest)
      | some _, links => follow top links (place ++ [name]) rest := by
  obtain ⟨entries, isThere⟩ := Node.standingAt_eq_directory_iff.mp isDirectory
  have notLong := Nat.not_lt.mpr isName.isShort
  have notHere := beq_eq_false_iff_ne.mpr isName.notHere
  have notAbove := beq_eq_false_iff_ne.mpr isName.notAbove
  cases links <;>
    · simp only [follow, followNames, isThere, Node.standingAt, notHere, notAbove, notLong, if_false,
        Bool.false_eq_true]
      cases top.at? (place ++ [name]) with
      | none => rfl
      | some node => cases node <;> rfl

theorem follow_eq_ok_iff {top : Node} {links : Nat} {place : DiskPlace} {names : List String} :
    follow top links place names = .ok found ↔ ∃ left, Way top links place names left found := by
  constructor
  · intro isFound
    induction links generalizing place names found with
    | zero => exact way_of_followNames (fun _ _ _ jumped => by cases jumped) isFound
    | succ links ih =>
        refine way_of_followNames (fun place names found jumped => ?_) isFound
        obtain ⟨left, way⟩ := ih jumped
        exact ⟨links, left, rfl, way⟩
  · rintro ⟨left, way⟩
    induction way with
    | done links => cases links <;> rfl
    | @stay links _ _ _ _ isDirectory _ ih | @rise links _ _ _ _ isDirectory _ ih =>
        obtain ⟨entries, isThere⟩ := Node.standingAt_eq_directory_iff.mp isDirectory
        cases links <;>
          · simp only [follow, followNames, isThere] at ih ⊢
            exact ih
    | step isDirectory isName ends _ ih =>
        obtain ⟨standing, isThere, notLink⟩ := ends
        rw [follow_cons _ _ isDirectory isName, isThere]
        cases standing with
        | link target => exact absurd rfl (notLink target)
        | file | directory => exact ih
    | jump isDirectory isName isLink _ ih =>
        rw [follow_cons _ _ isDirectory isName, isLink]
        exact ih

/-- Names lead to one place only. -/
theorem way_unique {top : Node} {links left others : Nat} {place other : DiskPlace} {names : List String}
    (way : Way top links place names left found) (second : Way top links place names others other) :
    found = other := by
  have isFound := follow_eq_ok_iff.mpr ⟨left, way⟩
  rw [follow_eq_ok_iff.mpr ⟨others, second⟩] at isFound
  exact (Except.ok.inj isFound).symm

theorem place_eq_ok_iff :
    disk.place path = .ok found ↔ checked path = .ok () ∧
      ∃ left, Way disk.top linkLimit (disk.origin path) (Path.names path) left found := by
  rw [← follow_eq_ok_iff, place]
  cases checked path with
  | error error => simp [bind, Except.bind]
  | ok => simp [bind, Except.bind]

theorem read_eq_ok_iff {content : ByteArray} :
    disk.read path = .ok content ↔
      ∃ place, disk.place path = .ok place ∧ disk.top.standingAt place = some (.file content) := by
  simp only [Node.standingAt_eq_file_iff]
  cases isPlace : disk.place path with
  | error error => simp [read, node, isPlace, bind, Except.bind]
  | ok place =>
      cases isNode : disk.top.at? place with
      | none => simp [read, node, isPlace, isNode, bind, Except.bind]
      | some node => cases node <;> simp [read, Disk.node, isPlace, isNode, bind, Except.bind]

/-- Where the directory of an entry is known, the name decides. -/
theorem entry_below {reached : DiskPlace} (isPath : checked path = .ok ())
    (isFound : follow disk.top linkLimit (disk.origin path) (Path.plainNames path).dropLast =
      .ok reached)
    (isDirectory : disk.top.standingAt reached = some .directory) :
    disk.entry path = .ok (parent, some name) ↔
      reached = parent ∧ (Path.plainNames path).getLast? = some name ∧ IsEntryName name := by
  obtain ⟨entries, isThere⟩ := Node.standingAt_eq_directory_iff.mp isDirectory
  simp only [entry, isPath, isFound, isThere, bind, Except.bind]
  generalize (Path.plainNames path).getLast? = last
  split
  · simp
  · simp only [Except.ok.injEq, Prod.mk.injEq, reduceCtorEq, and_false, Option.some.injEq, false_iff]
    rintro ⟨_, rfl, isName⟩
    exact isName.notHere rfl
  · simp only [Except.ok.injEq, Prod.mk.injEq, reduceCtorEq, and_false, Option.some.injEq, false_iff]
    rintro ⟨_, rfl, isName⟩
    exact isName.notAbove rfl
  · rename_i other notHere notAbove
    split
    · rename_i isLong
      simp only [reduceCtorEq, Option.some.injEq, false_iff]
      rintro ⟨_, rfl, isName⟩
      exact absurd isName.isShort (Nat.not_le.mpr isLong)
    · rename_i notLong
      simp only [Except.ok.injEq, Prod.mk.injEq, Option.some.injEq]
      constructor
      · rintro ⟨rfl, rfl⟩
        exact ⟨rfl, rfl, notHere, notAbove, Nat.not_lt.mp notLong⟩
      · rintro ⟨rfl, rfl, _⟩
        exact ⟨rfl, rfl⟩

theorem entry_eq_ok_iff :
    disk.entry path = .ok (parent, some name) ↔ checked path = .ok () ∧
      (∃ left, Way disk.top linkLimit (disk.origin path) (Path.plainNames path).dropLast left parent) ∧
      disk.top.standingAt parent = some .directory ∧
      (Path.plainNames path).getLast? = some name ∧ IsEntryName name := by
  rw [← follow_eq_ok_iff]
  cases isPath : checked path with
  | error error => simp [entry, isPath, bind, Except.bind]
  | ok =>
      cases isFound : follow disk.top linkLimit (disk.origin path)
          (Path.plainNames path).dropLast with
      | error error => simp [entry, isPath, isFound, bind, Except.bind]
      | ok reached =>
          by_cases isDirectory : disk.top.standingAt reached = some .directory
          · rw [entry_below isPath isFound isDirectory]
            simp only [Except.ok.injEq, true_and]
            constructor
            · rintro ⟨rfl, isLast⟩
              exact ⟨rfl, isDirectory, isLast⟩
            · rintro ⟨rfl, _, isLast⟩
              exact ⟨rfl, isLast⟩
          · have refused : disk.entry path = .error .notDirectory := by
              simp only [entry, isPath, isFound, bind, Except.bind]
              split
              · rename_i entries isThere
                exact absurd (Node.standingAt_eq_directory_iff.mpr ⟨entries, isThere⟩) isDirectory
              · rfl
            rw [refused]
            simp only [reduceCtorEq, Except.ok.injEq, false_iff]
            rintro ⟨_, rfl, stands, _⟩
            exact isDirectory stands

/-- The directories that some paths name. -/
def Names (disk : Disk) (paths : List String) (place : DiskPlace) : Prop :=
  ∃ path ∈ paths, ∃ parent name, disk.entry path = .ok (parent, some name) ∧ place = parent ++ [name]

/-- What stands on a disk has stayed, and all that is new are directories that some paths name. -/
structure Grown (paths : List String) (before after : Disk) : Prop where
  start : after.start = before.start
  places : ∀ place, after.top.standingAt place = before.top.standingAt place ∨
    before.top.standingAt place = none ∧ after.top.standingAt place = some .directory ∧
      after.Names paths place

/-- A path reaches the entry that it names and, links followed, the place behind it. -/
inductive Reaches (disk : Disk) (path : String) : DiskPlace → Prop
  | entry {parent : DiskPlace} {name : String} (isEntry : disk.entry path = .ok (parent, some name)) :
      Reaches disk path (parent ++ [name])
  | place {place : DiskPlace} (isPlace : disk.place path = .ok place) : Reaches disk path place

/-- What a destination reaches is as it was, unless it is itself one of the directories made.  A file that
could be read there is read still. -/
structure Spares (paths : List String) (destination : String) (before after : Disk) : Prop where
  standing : ∀ place, after.Reaches destination place →
    after.top.standingAt place ≠ before.top.standingAt place →
      before.top.standingAt place = none ∧ after.top.standingAt place = some .directory ∧
        after.Names paths place
  read : ∀ content, before.read destination = .ok content → after.read destination = .ok content

theorem origin_eq (start : after.start = before.start) (path : String) :
    after.origin path = before.origin path := by
  rw [origin, origin, start]

/-- What a path names stays where directories and links stay. -/
theorem entry_kept (kept : WaysKept before.top after.top) (start : after.start = before.start)
    (isEntry : before.entry path = .ok (parent, some name)) :
    after.entry path = .ok (parent, some name) := by
  obtain ⟨isPath, ⟨left, way⟩, isDirectory, isLast⟩ := entry_eq_ok_iff.mp isEntry
  have staysDirectory := kept.directory isDirectory
  refine entry_eq_ok_iff.mpr ⟨isPath, ⟨left, ?_⟩, staysDirectory, isLast⟩
  rw [origin_eq start]
  exact kept.way way ⟨.directory, staysDirectory, nofun⟩

namespace Grown

variable {paths : List String} {between : Disk}

theorem refl (disk : Disk) : Grown paths disk disk := ⟨rfl, fun _ => .inl rfl⟩

theorem kept (grown : Grown paths before after) {place : DiskPlace} {standing : Standing}
    (isThere : before.top.standingAt place = some standing) :
    after.top.standingAt place = some standing := by
  obtain same | ⟨absent, _⟩ := grown.places place
  · rw [same, isThere]
  · rw [isThere] at absent
    cases absent

theorem waysKept (grown : Grown paths before after) : WaysKept before.top after.top :=
  ⟨grown.kept, grown.kept⟩

theorem trans (first : Grown paths before between) (second : Grown paths between after) :
    Grown paths before after := by
  refine ⟨second.start.trans first.start, fun place => ?_⟩
  obtain same | ⟨absent, isNew, path, isIn, parent, name, isEntry, place_eq⟩ := first.places place
  · rw [← same]
    exact second.places place
  · exact .inr ⟨absent, second.kept isNew, path, isIn, parent, name,
      entry_kept second.waysKept second.start isEntry, place_eq⟩

theorem read (grown : Grown paths before after) {content : ByteArray}
    (isRead : before.read path = .ok content) : after.read path = .ok content := by
  obtain ⟨place, isPlace, isFile⟩ := read_eq_ok_iff.mp isRead
  obtain ⟨isPath, left, way⟩ := place_eq_ok_iff.mp isPlace
  have staysFile : after.top.standingAt place = some (.file content) := grown.kept isFile
  refine read_eq_ok_iff.mpr ⟨place, place_eq_ok_iff.mpr ⟨isPath, left, ?_⟩, staysFile⟩
  rw [origin_eq grown.start]
  exact grown.waysKept.way way ⟨.file content, staysFile, nofun⟩

theorem spares (grown : Grown paths before after) (destination : String) :
    Spares paths destination before after where
  standing place _ changed := (grown.places place).resolve_left changed
  read _ := grown.read

end Grown

end Disk

end RepoSurvey
