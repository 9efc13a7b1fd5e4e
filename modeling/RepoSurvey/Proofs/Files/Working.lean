import RepoSurvey.Files.Operations
import RepoSurvey.Proofs.Files.Joining
import RepoSurvey.Proofs.Files.Ways
import RepoSurvey.Proofs.Survey.Courses

/-!
# Operations on a disk that may fail

Whatever works on a disk may fail at any time, as often as it likes.  A failure changes nothing, except
that a file may have got some of the bytes that are written to it.  The operations on a disk that never
fail without need are one example.
-/

namespace RepoSurvey

variable {σ ε α : Type}

/-- An action that may fail changes a disk in a certain way if it goes well, and not at all if not. -/
def Attempts (disk : σ → Disk) (action : ExceptT ε (StateM σ) α)
    (changes : Disk → α → Disk → Prop) : Prop :=
  ∀ state, match action.run.run state with
    | (.ok result, later) => changes (disk state) result (disk later)
    | (.error _, later) => disk later = disk state

namespace Disk

/-- Some of the first bytes came to the end of a file, all of them if there is no error. -/
inductive Appends (before : Disk) (path : String) (bytes : ByteArray) :
    Except SystemError Unit → Disk → Prop
  | nothing (error : SystemError) : Appends before path bytes (.error error) before
  | written {place : DiskPlace} {content : ByteArray} {result : Except SystemError Unit}
      (count : Nat) (room : Option Nat) (isPlace : before.place path = .ok place)
      (isFile : before.top.at? place = some (.file content))
      (isWhole : result = .ok () → bytes.size ≤ count) :
      Appends before path bytes result
        { before.put place (some (.file (content ++ bytes.extract 0 count))) with room }

end Disk

/-- Operations that work on a disk. -/
structure FileOperations.WorkOn (files : FileOperations (StateM σ)) (disk : σ → Disk) : Prop where
  list : ∀ path, Leaves disk (files.list path).run
  read : ∀ path, Leaves disk (files.read path).run
  isDirectory : ∀ path, Leaves disk (files.isDirectory path)
  makeDirectory : ∀ path, Attempts disk (files.makeDirectory path) fun before _ after =>
    before.makeDirectory path = .ok after
  createTemporary : ∀ directory, Attempts disk (files.createTemporary directory)
    fun before path after =>
      before.create path (.file .empty) = .ok after ∧ Path.endsInSlash path = false
  append : ∀ path bytes state,
    let written := (files.append path bytes).run.run state
    (disk state).Appends path bytes written.1 (disk written.2)
  rename : ∀ source destination, Attempts disk (files.rename source destination)
    fun before _ after => before.rename source destination = .ok after
  remove : ∀ path state, disk ((files.remove path).run state).2 = (disk state).remove path

namespace Disk

theorem attempt_run (change : Disk → Except SystemError (α × Disk)) (disk : Disk) :
    (attempt change).run.run disk =
      match change disk with
      | .ok (result, changed) => (.ok result, changed)
      | .error error => (.error error, disk) :=
  rfl

theorem attempts_attempt {change : Disk → Except SystemError (α × Disk)}
    {changes : Disk → α → Disk → Prop}
    (isChange : ∀ before result after, change before = .ok (result, after) →
      changes before result after) :
    Attempts id (attempt change) changes := by
  intro disk
  rw [attempt_run]
  cases outcome : change disk with
  | error error => rfl
  | ok result => exact isChange _ _ _ outcome

theorem leaves_attempt (look : Disk → Except SystemError α) :
    Leaves id (attempt fun disk => return (← look disk, disk)).run := by
  intro disk
  rw [attempt_run]
  cases look disk <;> rfl

theorem attempts_attempt_unit {change : Disk → Except SystemError Disk} :
    Attempts id (attempt fun disk => return ((), ← change disk)) fun before _ after =>
      change before = .ok after := by
  apply attempts_attempt
  intro before _ after isChanged
  cases changed : change before with
  | error error => simp [changed, bind, Except.bind] at isChanged
  | ok disk =>
      simp only [changed, bind, Except.bind, pure, Except.pure, Except.ok.injEq, Prod.mk.injEq,
        true_and] at isChanged
      rw [isChanged]

/-! ## Names of temporary files -/

theorem freshName_isTemporary (used : List String) (number tries : Nat) :
    ∃ other, freshName used number tries = temporaryName other := by
  induction tries generalizing number with
  | zero => exact ⟨number, rfl⟩
  | succ tries ih =>
      rw [freshName]
      split
      · exact ih (number + 1)
      · exact ⟨number, rfl⟩

theorem temporaryName_getLast? (number : Nat) :
    ∃ digit, (temporaryName number).toList.getLast? = some digit ∧ digit ≠ '/' := by
  have digits_eq : (toString (100000 + number)).toList = Nat.toDigits 10 (100000 + number) := by
    simp
  have notEmpty : Nat.toDigits 10 (100000 + number) ≠ [] := Nat.toDigits_ne_nil
  refine ⟨(Nat.toDigits 10 (100000 + number)).getLast notEmpty, ?_, ?_⟩
  · rw [temporaryName, String.toList_append, digits_eq, List.getLast?_append_of_ne_nil _ notEmpty,
      List.getLast?_eq_some_getLast notEmpty]
  · have isDigit : ((Nat.toDigits 10 (100000 + number)).getLast notEmpty).isDigit = true :=
      Nat.isDigit_of_mem_toDigits (by decide) (by decide) (List.getLast_mem notEmpty)
    intro isSlash
    rw [isSlash] at isDigit
    cases isDigit

theorem endsInSlash_join {base name : String} {last : Char}
    (isLast : name.toList.getLast? = some last) (notSlash : last ≠ '/') :
    Path.endsInSlash (Path.join base name) = false := by
  have staysLast (start : List Char) : (start ++ name.toList).getLast? = some last := by
    rw [List.getLast?_append, isLast, Option.some_or]
  have last_eq : (Path.join base name).toList.getLast? = some last := by
    rw [Path.join]
    split
    · exact isLast
    · split <;> rw [String.toList_append] <;> exact staysLast _
  rw [Path.endsInSlash, last_eq]
  simpa using notSlash

theorem createTemporary_eq_ok {before after : Disk} {directory path : String}
    (isMade : before.createTemporary directory = .ok (path, after)) :
    before.create path (.file .empty) = .ok after ∧ Path.endsInSlash path = false := by
  rw [createTemporary] at isMade
  dsimp only [bind, Except.bind] at isMade
  split at isMade
  · cases isMade
  · split at isMade
    · rename_i entries _
      split at isMade
      · cases isMade
      · rename_i made isCreated
        obtain ⟨number, name_eq⟩ := freshName_isTemporary (entries.map (·.1)) 0 entries.length
        obtain ⟨digit, isLast, notSlash⟩ := temporaryName_getLast? number
        rw [name_eq] at isMade isCreated
        cases isMade
        exact ⟨isCreated, endsInSlash_join isLast notSlash⟩
    · cases isMade

theorem appends_append (disk : Disk) (path : String) (bytes : ByteArray) :
    disk.Appends path bytes (disk.append path bytes).1 (disk.append path bytes).2 := by
  rw [append]
  cases isPlace : disk.place path with
  | error error => exact .nothing error
  | ok place =>
      dsimp only
      split
      · rename_i content isFile
        split
        · exact .written _ _ isPlace isFile nofun
        · rename_i notLess
          exact .written _ _ isPlace isFile fun _ => Nat.not_lt.mp notLess
      · exact .nothing _

/-- The operations on a disk that never fail without need. -/
theorem operations_workOn : operations.WorkOn id where
  list _ := leaves_attempt _
  read _ := leaves_attempt _
  isDirectory _ _ := rfl
  makeDirectory _ := attempts_attempt_unit
  createTemporary _ := attempts_attempt fun _ _ _ => createTemporary_eq_ok
  append path bytes disk := appends_append disk path bytes
  rename _ _ := attempts_attempt_unit
  remove _ _ := rfl

end Disk

end RepoSurvey
