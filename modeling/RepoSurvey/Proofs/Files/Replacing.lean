import RepoSurvey.Proofs.Actions
import RepoSurvey.Proofs.Files.Working

/-!
# Putting a text in place

A text that is put in place is there as a whole or not at all.  It is written aside to a new file, which
is taken away again if anything fails.  Apart from the place of the text, nothing changes on the disk but
that directories on the way are made.
-/

namespace RepoSurvey

variable {σ ε α β : Type}

namespace Disk

variable {before after later : Disk} {path destination name : String} {parent : DiskPlace} {new : Node}
  {content : ByteArray}

/-- The path of what stands at an entry leads there, unless it asks for a directory. -/
theorem place_of_entry (isEntry : before.entry path = .ok (parent, some name))
    (ends : before.top.Ends (parent ++ [name])) (noSlash : Path.endsInSlash path = false) :
    before.place path = .ok (parent ++ [name]) := by
  obtain ⟨isPath, ⟨left, way⟩, isDirectory, isLast, isName⟩ := entry_eq_ok_iff.mp isEntry
  have names_eq : Path.names path = (Path.plainNames path).dropLast ++ [name] := by
    rw [Path.names, noSlash, if_neg Bool.false_ne_true, List.dropLast_append_getLast? name isLast]
  refine place_eq_ok_iff.mpr ⟨isPath, left, ?_⟩
  rw [names_eq]
  exact way.append (.step isDirectory isName ends (.done left _))

/-! ## Something new -/

/-- Something new stands where a path leads to, and nothing else has changed. -/
structure Adds (before : Disk) (path : String) (parent : DiskPlace) (name : String) (new : Node)
    (after : Disk) : Prop where
  isEntry : before.entry path = .ok (parent, some name)
  absent : before.top.at? (parent ++ [name]) = none
  start : after.start = before.start
  top : after.top = before.top.put (parent ++ [name]) (some new)

theorem create_eq_ok (isCreated : before.create path new = .ok after) :
    ∃ parent name, before.Adds path parent name new after := by
  rw [create] at isCreated
  cases isEntry : before.entry path with
  | error error => simp [isEntry, bind, Except.bind] at isCreated
  | ok found =>
      obtain ⟨parent, name | name⟩ := found
      · simp [isEntry, bind, Except.bind] at isCreated
      · simp only [isEntry, bind, Except.bind] at isCreated
        split at isCreated
        · cases isCreated
        · rename_i absent
          cases isCreated
          exact ⟨parent, name, isEntry, by simpa using absent, rfl, rfl⟩

namespace Adds

theorem standingAt (adds : before.Adds path parent name new after) (isBare : new.IsBare)
    (place : DiskPlace) :
    after.top.standingAt place =
      if place = parent ++ [name] then some new.standing else before.top.standingAt place := by
  have isDirectory := (entry_eq_ok_iff.mp adds.isEntry).2.2.1
  have nothing : before.top.standingAt (parent ++ [name]) ≠ some .directory := by
    rw [Node.standingAt, adds.absent]
    simp
  rw [adds.top, Node.standingAt_put isDirectory nothing isBare]

theorem kept (adds : before.Adds path parent name new after) (isBare : new.IsBare)
    {place : DiskPlace} {standing : Standing}
    (isThere : before.top.standingAt place = some standing) :
    after.top.standingAt place = some standing := by
  rw [adds.standingAt isBare, if_neg, isThere]
  rintro rfl
  rw [Node.standingAt, adds.absent] at isThere
  cases isThere

theorem waysKept (adds : before.Adds path parent name new after) (isBare : new.IsBare) :
    WaysKept before.top after.top :=
  ⟨adds.kept isBare, adds.kept isBare⟩

theorem entry (adds : before.Adds path parent name new after) (isBare : new.IsBare) :
    after.entry path = .ok (parent, some name) :=
  entry_kept (adds.waysKept isBare) adds.start adds.isEntry

theorem grown (adds : before.Adds path parent name (.directory []) after) {paths : List String}
    (isIn : path ∈ paths) : Grown paths before after := by
  refine ⟨adds.start, fun place => ?_⟩
  rw [adds.standingAt Node.isBare_emptyDirectory]
  by_cases isPlace : place = parent ++ [name]
  · subst isPlace
    refine .inr ⟨?_, if_pos rfl, path, isIn, parent, name, adds.entry Node.isBare_emptyDirectory, rfl⟩
    rw [Node.standingAt, adds.absent]
    rfl
  · exact .inl (if_neg isPlace)

variable (adds : before.Adds path parent name (.file content) after)

include adds

theorem standingAt_self :
    after.top.standingAt (parent ++ [name]) = some (.file content) := by
  rw [adds.standingAt (Node.isBare_file content), if_pos rfl]
  rfl

theorem at?_self : after.top.at? (parent ++ [name]) = some (.file content) :=
  Node.standingAt_eq_file_iff.mp adds.standingAt_self

/-- A new file opens no ways. -/
theorem waysKept_back : WaysKept after.top before.top := by
  have kept_back {place : DiskPlace} {standing : Standing} (notFile : standing ≠ .file content)
      (isThere : after.top.standingAt place = some standing) :
      before.top.standingAt place = some standing := by
    rw [adds.standingAt (Node.isBare_file content)] at isThere
    split at isThere
    · exact absurd (Option.some.inj isThere).symm notFile
    · exact isThere
  exact ⟨kept_back nofun, kept_back nofun⟩

theorem place (noSlash : Path.endsInSlash path = false) : after.place path = .ok (parent ++ [name]) :=
  place_of_entry (adds.entry (Node.isBare_file content))
    ⟨.file content, adds.standingAt_self, nofun⟩ noSlash

/-- A new file that is written is a new file with more in it. -/
theorem append {bytes : ByteArray} {result : Except SystemError Unit}
    (noSlash : Path.endsInSlash path = false) (appends : after.Appends path bytes result later) :
    ∃ more, before.Adds path parent name (.file (content ++ more)) later ∧
      (result = .ok () → more = bytes) := by
  cases appends with
  | nothing error =>
      refine ⟨.empty, ?_, nofun⟩
      rw [ByteArray.append_empty]
      exact adds
  | written count room isPlace isFile isWhole =>
      rw [adds.place noSlash] at isPlace
      cases isPlace
      rw [adds.at?_self] at isFile
      cases isFile
      refine ⟨bytes.extract 0 count, ⟨adds.isEntry, adds.absent, adds.start, ?_⟩, fun isDone => ?_⟩
      · change after.top.put _ _ = _
        rw [adds.top, Node.put_put]
      · apply ByteArray.ext
        rw [ByteArray.data_extract]
        exact Array.extract_eq_self_of_le (isWhole isDone)

/-- A new file that is removed has left nothing behind. -/
theorem remove : (after.remove path).top = before.top ∧ (after.remove path).start = before.start := by
  rw [Disk.remove, adds.entry (Node.isBare_file content)]
  dsimp only
  rw [adds.at?_self]
  refine ⟨?_, adds.start⟩
  change after.top.put _ _ = _
  rw [adds.top, Node.put_none_put adds.absent]

end Adds

/-! ## Something in place of something else -/

/-- A file stands where a path leads to, and nothing else has changed. -/
def Replaces (before : Disk) (destination : String) (content : ByteArray) (after : Disk) : Prop :=
  after.start = before.start ∧ Path.endsInSlash destination = false ∧
    ∃ parent name, before.entry destination = .ok (parent, some name) ∧
      before.top.standingAt (parent ++ [name]) ≠ some .directory ∧
      ∀ place, after.top.standingAt place =
        if place = parent ++ [name] then some (.file content) else before.top.standingAt place

theorem Adds.rename (adds : before.Adds path parent name (.file content) after)
    (isMoved : after.rename path destination = .ok later) :
    before.Replaces destination content later := by
  have isSource := adds.entry (Node.isBare_file content)
  cases isEntry : after.entry destination with
  | error error => simp [Disk.rename, isSource, isEntry, bind, Except.bind] at isMoved
  | ok found =>
      obtain ⟨goalParent, goal | goal⟩ := found
      · simp [Disk.rename, isSource, isEntry, bind, Except.bind] at isMoved
      · simp only [Disk.rename, isSource, isEntry, bind, Except.bind, adds.at?_self] at isMoved
        have isGoal : before.entry destination = .ok (goalParent, some goal) :=
          entry_kept adds.waysKept_back adds.start.symm isEntry
        split at isMoved
        · cases isMoved
        rename_i noSlash
        split at isMoved
        · cases isMoved
        split at isMoved
        · cases isMoved
        rename_i notThere
        have notDirectory : before.top.standingAt (goalParent ++ [goal]) ≠ some .directory := by
          intro isDirectory
          have stays := adds.kept (Node.isBare_file content) isDirectory
          obtain ⟨entries, isThere⟩ := Node.standingAt_eq_directory_iff.mp stays
          rw [isThere] at notThere
          exact notThere rfl
        split at isMoved
        · rename_i isSame
          rw [beq_iff_eq] at isSame
          cases isMoved
          refine ⟨adds.start, by simpa using noSlash, goalParent, goal, isGoal, notDirectory, ?_⟩
          rw [isSame]
          exact adds.standingAt (Node.isBare_file content)
        · cases isMoved
          refine ⟨adds.start, by simpa using noSlash, goalParent, goal, isGoal, notDirectory, ?_⟩
          intro place
          have isDirectory := (entry_eq_ok_iff.mp isGoal).2.2.1
          change ((after.top.put _ none).put _ _).standingAt place = _
          rw [adds.top, Node.put_none_put adds.absent,
            Node.standingAt_put isDirectory notDirectory (Node.isBare_file content)]
          rfl

/-- Where no link is replaced, the destination still leads to its place. -/
theorem Replaces.entry (replaces : before.Replaces destination content after)
    (notLink : ∀ parent name target, before.entry destination = .ok (parent, some name) →
      before.top.standingAt (parent ++ [name]) ≠ some (.link target)) :
    after.entry destination = before.entry destination := by
  obtain ⟨start, _, parent, name, isEntry, notDirectory, places⟩ := replaces
  refine (entry_kept ⟨?_, ?_⟩ start isEntry).trans isEntry.symm
  · intro place isDirectory
    rw [places, if_neg, isDirectory]
    rintro rfl
    exact notDirectory isDirectory
  · intro place target isLink
    rw [places, if_neg, isLink]
    rintro rfl
    exact notLink parent name target isEntry isLink

/-- What was put in place can be read where the destination still leads there. -/
theorem Replaces.read (replaces : before.Replaces destination content after)
    (stays : after.entry destination = before.entry destination) :
    after.read destination = .ok content := by
  obtain ⟨_, noSlash, parent, name, isEntry, _, places⟩ := replaces
  have isThere : after.top.standingAt (parent ++ [name]) = some (.file content) := by
    rw [places, if_pos rfl]
  have isPlace : after.place destination = .ok (parent ++ [name]) :=
    place_of_entry (stays.trans isEntry) ⟨.file content, isThere, nofun⟩ noSlash
  exact read_eq_ok_iff.mpr ⟨parent ++ [name], isPlace, isThere⟩

end Disk

/-! ## Putting a text in place -/

/-- All that an action does to a disk is to make directories that some paths name. -/
def Grows (disk : σ → Disk) (paths : List String) (action : StateM σ α) : Prop :=
  ∀ state, Disk.Grown paths (disk state) (disk (action.run state).2)

namespace Grows

variable {disk : σ → Disk} {paths : List String}

theorem ofLeaves {action : StateM σ α} (leaves : Leaves disk action) : Grows disk paths action := by
  intro state
  rw [leaves state]
  exact .refl _

theorem bind {action : StateM σ α} {next : α → StateM σ β} (first : Grows disk paths action)
    (others : ∀ value, Grows disk paths (next value)) : Grows disk paths (action >>= next) := by
  intro state
  exact (first state).trans (others (action.run state).1 (action.run state).2)

theorem bindExcept {action : ExceptT ε (StateM σ) α} {next : α → ExceptT ε (StateM σ) β}
    (first : Grows disk paths action.run) (others : ∀ value, Grows disk paths (next value).run) :
    Grows disk paths (action >>= next).run := by
  rw [ExceptT.run_bind]
  refine first.bind fun result => ?_
  cases result with
  | ok value => exact others value
  | error error => exact .ofLeaves (.pure _)

theorem tryCatch {action : ExceptT ε (StateM σ) α} {rescue : ε → ExceptT ε (StateM σ) α}
    (first : Grows disk paths action.run) (others : ∀ error, Grows disk paths (rescue error).run) :
    Grows disk paths (MonadExcept.tryCatch action rescue).run := by
  change Grows disk paths (action.run >>= fun result => match result with
    | .ok value => pure (.ok value)
    | .error error => (rescue error).run)
  refine first.bind fun result => ?_
  cases result with
  | ok value => exact .ofLeaves (.pure _)
  | error error => exact others error

end Grows

namespace FileOperations

variable {files : FileOperations (StateM σ)} {disk : σ → Disk}

theorem WorkOn.makeDirectory_grows (works : files.WorkOn disk) {paths : List String} {path : String}
    (isIn : path ∈ paths) : Grows disk paths (files.makeDirectory path).run := by
  intro state
  have isMade := works.makeDirectory path state
  generalize (files.makeDirectory path).run.run state = outcome at isMade
  obtain ⟨error | done, later⟩ := outcome
  · dsimp only at isMade ⊢
    rw [isMade]
    exact .refl _
  · obtain ⟨parent, name, adds⟩ := Disk.create_eq_ok isMade
    exact adds.grown isIn

theorem WorkOn.makeDirectories_grows (works : files.WorkOn disk) {made paths : List String}
    (areIn : made ⊆ paths) : Grows disk paths (files.makeDirectories made).run := by
  induction made with
  | nil => exact .ofLeaves (.pure _)
  | cons path parents ih =>
      obtain ⟨isIn, othersIn⟩ := List.cons_subset.mp areIn
      rw [makeDirectories]
      split
      · exact .ofLeaves (.pure _)
      · extract_lets unlessThere
        have looks (error : SystemError) : Grows disk paths (unlessThere error).run := by
          have isKept : Grows disk paths (liftM (files.isDirectory path) :
              ExceptT SystemError (StateM σ) Bool).run :=
            .ofLeaves fun state => works.isDirectory path state
          refine isKept.bindExcept fun isThere => ?_
          cases isThere <;> exact .ofLeaves (.pure _)
        refine (works.makeDirectory_grows isIn).tryCatch fun error => ?_
        split
        · exact (ih othersIn).bindExcept fun _ => (works.makeDirectory_grows isIn).tryCatch looks
        · exact looks error

/-- A text that was started aside is put in place as a whole, or nothing of it is left. -/
theorem WorkOn.moveInPlace (works : files.WorkOn disk) {before : Disk} {temporary name : String}
    {parent : DiskPlace} {state : σ}
    (adds : before.Adds temporary parent name (.file .empty) (disk state))
    (noSlash : Path.endsInSlash temporary = false) (destination : String) (bytes : ByteArray) :
    let done := (tryCatch (do
        files.append temporary bytes
        files.rename temporary destination)
      fun error => do
        files.remove temporary
        throw error : ExceptT SystemError (StateM σ) Unit).run.run state
    match done.1 with
    | .ok () => before.Replaces destination bytes (disk done.2)
    | .error _ => (disk done.2).top = before.top ∧ (disk done.2).start = before.start := by
  -- Whichever step fails, the text that was started aside is removed.
  have takesAway (error : SystemError) (later : σ) {content : ByteArray}
      (adds : before.Adds temporary parent name (.file content) (disk later)) :
      let done := (do files.remove temporary; throw error :
        ExceptT SystemError (StateM σ) Unit).run.run later
      done.1 = .error error ∧
        (disk done.2).top = before.top ∧ (disk done.2).start = before.start := by
    refine ⟨rfl, ?_⟩
    change (disk ((files.remove temporary).run later).2).top = _ ∧
      (disk ((files.remove temporary).run later).2).start = _
    rw [works.remove]
    exact adds.remove
  dsimp only
  rw [run_tryCatch, run_bind]
  have appends := works.append temporary bytes state
  generalize (files.append temporary bytes).run.run state = appended at appends
  obtain ⟨result, afterAppend⟩ := appended
  obtain ⟨more, addsMore, isWhole⟩ := adds.append noSlash appends
  rw [ByteArray.empty_append] at addsMore
  cases result with
  | error error =>
      dsimp only
      obtain ⟨result_eq, isGone⟩ := takesAway error afterAppend addsMore
      rw [result_eq]
      exact isGone
  | ok =>
      dsimp only
      have moves := works.rename temporary destination afterAppend
      generalize (files.rename temporary destination).run.run afterAppend = renamed at moves
      obtain ⟨error | done, afterRename⟩ := renamed
      · dsimp only at moves ⊢
        rw [← moves] at addsMore
        obtain ⟨result_eq, isGone⟩ := takesAway error afterRename addsMore
        rw [result_eq]
        exact isGone
      · cases isWhole rfl
        exact addsMore.rename moves

/-- A text that is put in place is there as a whole, or nothing has changed.  Only directories may have
been made in either case. -/
theorem WorkOn.replaceText (works : files.WorkOn disk) (directory destination text : String)
    (state : σ) :
    let done := (files.replaceText directory destination text).run.run state
    let paths := directory :: Path.parents directory
    match done.1 with
    | .ok () => ∃ made, Disk.Grown paths (disk state) made ∧
        made.Replaces destination text.toUTF8 (disk done.2)
    | .error _ => Disk.Grown paths (disk state) (disk done.2) := by
  dsimp only
  rw [FileOperations.replaceText, run_bind]
  have grown := works.makeDirectories_grows (List.Subset.refl (directory :: Path.parents directory)) state
  generalize (files.makeDirectories (directory :: Path.parents directory)).run.run state = outcome
    at grown
  obtain ⟨error | done, afterMaking⟩ := outcome
  · exact grown
  dsimp only at grown ⊢
  rw [run_bind]
  have creates := works.createTemporary directory afterMaking
  generalize (files.createTemporary directory).run.run afterMaking = outcome at creates
  obtain ⟨error | temporary, afterCreating⟩ := outcome
  · dsimp only at creates ⊢
    rw [creates]
    exact grown
  obtain ⟨isCreated, noSlash⟩ := creates
  obtain ⟨parent, name, adds⟩ := Disk.create_eq_ok isCreated
  have moved := works.moveInPlace adds noSlash destination text.toUTF8
  dsimp only at moved ⊢
  generalize (tryCatch (do
        files.append temporary text.toUTF8
        files.rename temporary destination)
      fun error => do
        files.remove temporary
        throw error : ExceptT SystemError (StateM σ) Unit).run.run afterCreating = outcome at moved ⊢
  obtain ⟨error | done, afterMoving⟩ := outcome
  · obtain ⟨top_eq, start_eq⟩ := moved
    exact grown.trans ⟨start_eq, fun place => .inl (by rw [top_eq])⟩
  · exact ⟨_, grown, moved⟩

/-- A text takes the place of an older one. -/
example :
    let before : Disk := { top := .directory [("out", .directory [("a", .file "old".toUTF8)])] }
    ((Disk.operations.replaceText "out" "out/a" "new").run.run before).2.read "out/a" =
      .ok "new".toUTF8 := by
  decide +kernel

/-- Where there is no room for the new text, the older one stays. -/
example :
    let before : Disk := { top := .directory [("a", .file "old".toUTF8)], room := some 2 }
    ((Disk.operations.replaceText "." "a" "new").run.run before).2.read "a" = .ok "old".toUTF8 := by
  decide +kernel

end FileOperations

end RepoSurvey
