import Mathlib.Data.List.Basic
import RepoSurvey.Files.Disk

/-!
# What stands where

Putting something at a place of a tree changes nothing elsewhere.  What is put there a second time
replaces what was there, and taking it away again gives back the tree that it was put into.
-/

namespace RepoSurvey

/-- What stands at a place, without what stands below it. -/
inductive Standing
  | file (content : ByteArray)
  | directory
  | link (target : String)

namespace Node

def standing : Node → Standing
  | file content => .file content
  | directory _ => .directory
  | link target => .link target

/-- What stands at a place of a tree, if anything does. -/
def standingAt (top : Node) (place : DiskPlace) : Option Standing := (top.at? place).map standing

/-! ## Entries -/

section Entries

variable {name : String} {change : Option Node → Option Node} {entries : List (String × Node)}

theorem lookup_changeEntry (keeps : ∀ node, (change (some node)).isSome) (other : String) :
    (changeEntry name change entries).lookup other =
      if other = name then change (entries.lookup name) else entries.lookup other := by
  induction entries with
  | nil =>
      rw [changeEntry, List.lookup_nil]
      by_cases isName : other = name
      · subst isName
        cases change none <;> simp
      · cases change none <;> simp [List.lookup_cons, isName, beq_eq_false_iff_ne.mpr isName]
  | cons entry rest ih =>
      obtain ⟨first, node⟩ := entry
      rw [changeEntry]
      by_cases isFirst : first = name
      · subst isFirst
        obtain ⟨changed, changed_eq⟩ := Option.isSome_iff_exists.mp (keeps node)
        by_cases isName : other = first
        · simp [isName, changed_eq]
        · simp [List.lookup_cons, isName, changed_eq, beq_eq_false_iff_ne.mpr isName]
      · rw [if_neg (by simpa using isFirst)]
        by_cases isOther : other = first
        · subst isOther
          rw [if_neg isFirst]
          simp
        · have isNext := beq_eq_false_iff_ne.mpr isOther
          have notName := beq_eq_false_iff_ne.mpr (Ne.symm isFirst)
          simp only [List.lookup_cons, isNext, notName]
          exact ih

theorem changeEntry_changeEntry {first : Option Node → Option Node}
    (keeps : ∀ node, (first (some node)).isSome) :
    changeEntry name change (changeEntry name first entries) =
      changeEntry name (change ∘ first) entries := by
  induction entries with
  | nil =>
      simp only [changeEntry, Function.comp_apply]
      cases first none <;> simp [changeEntry]
  | cons entry rest ih =>
      obtain ⟨other, node⟩ := entry
      by_cases isName : other = name
      · obtain ⟨changed, changed_eq⟩ := Option.isSome_iff_exists.mp (keeps node)
        simp [changeEntry, isName, changed_eq]
      · simp [changeEntry, isName, ih]

theorem changeEntry_eq_self (same : change (entries.lookup name) = entries.lookup name) :
    changeEntry name change entries = entries := by
  induction entries with
  | nil =>
      have nothing : change none = none := same
      simp [changeEntry, nothing]
  | cons entry rest ih =>
      obtain ⟨other, node⟩ := entry
      rw [changeEntry]
      by_cases isName : other = name
      · subst isName
        rw [List.lookup_cons_self] at same
        simp [same]
      · have isNext := beq_eq_false_iff_ne.mpr (Ne.symm isName)
        simp only [List.lookup_cons, isNext] at same
        rw [if_neg (by simpa using isName), ih same]

end Entries

/-! ## Places -/

variable {top new : Node} {parent place : DiskPlace} {name : String}

theorem at?_append (first rest : DiskPlace) :
    top.at? (first ++ rest) = (top.at? first).bind (at? rest) := by
  induction first generalizing top with
  | nil => rfl
  | cons name others ih =>
      cases top with
      | directory entries =>
          rw [List.cons_append, at?, at?, Option.bind_assoc]
          congr 1
          funext node
          exact ih
      | file content => rfl
      | link target => rfl

theorem standingAt_eq_directory_iff :
    top.standingAt place = some .directory ↔ ∃ entries, top.at? place = some (.directory entries) := by
  rw [standingAt]
  cases top.at? place with
  | none => simp
  | some node => cases node <;> simp [standing]

theorem standingAt_eq_file_iff {content : ByteArray} :
    top.standingAt place = some (.file content) ↔ top.at? place = some (.file content) := by
  rw [standingAt]
  cases top.at? place with
  | none => simp
  | some node => cases node <;> simp [standing]

/-- What stands below a place stands in a directory. -/
theorem standingAt_directory_of_below {rest : DiskPlace} (isBelow : rest ≠ [])
    (isThere : (top.at? (place ++ rest)).isSome) : top.standingAt place = some .directory := by
  rw [at?_append] at isThere
  rw [standingAt_eq_directory_iff]
  cases node_eq : top.at? place with
  | none => simp [node_eq] at isThere
  | some node =>
      cases node with
      | directory entries => exact ⟨entries, rfl⟩
      | file content => cases rest <;> simp_all [at?]
      | link target => cases rest <;> simp_all [at?]

theorem put_cons {rest : DiskPlace} (isBelow : rest ≠ []) (change : Option Node)
    (entries : List (String × Node)) :
    (directory entries).put (name :: rest) change =
      directory (changeEntry name (Option.map (put rest change)) entries) := by
  cases rest with
  | nil => contradiction
  | cons next others => rfl

theorem put_put (place : DiskPlace) (again : Option Node) :
    (top.put place (some new)).put place again = top.put place again := by
  induction place generalizing top with
  | nil => rfl
  | cons name rest ih =>
      cases top with
      | file content => cases rest <;> rfl
      | link target => cases rest <;> rfl
      | directory entries =>
          by_cases isLast : rest = []
          · subst isLast
            exact congrArg directory (changeEntry_changeEntry fun _ => rfl)
          · rw [put_cons isLast, put_cons isLast, put_cons isLast,
              changeEntry_changeEntry fun _ => rfl, Option.map_comp_map]
            congr 3
            funext node
            exact ih

theorem put_none_of_absent (absent : top.at? place = none) : top.put place none = top := by
  induction place generalizing top with
  | nil => cases absent
  | cons name rest ih =>
      cases top with
      | file content => cases rest <;> rfl
      | link target => cases rest <;> rfl
      | directory entries =>
          rw [at?] at absent
          by_cases isLast : rest = []
          · subst isLast
            have notThere : entries.lookup name = none := by simpa [at?] using absent
            exact congrArg directory (changeEntry_eq_self notThere.symm)
          · rw [put_cons isLast]
            congr 1
            apply changeEntry_eq_self
            cases node_eq : entries.lookup name with
            | none => rfl
            | some node =>
                rw [node_eq, Option.bind_some] at absent
                rw [Option.map_some, ih absent]

/-- Something new that was taken away again has left nothing behind. -/
theorem put_none_put (absent : top.at? place = none) :
    (top.put place (some new)).put place none = top := by
  rw [put_put, put_none_of_absent absent]

theorem at?_put_below (isDirectory : top.standingAt parent = some .directory) (rest : DiskPlace) :
    (top.put (parent ++ [name]) (some new)).at? (parent ++ name :: rest) = new.at? rest := by
  induction parent generalizing top with
  | nil =>
      obtain ⟨entries, top_eq⟩ := standingAt_eq_directory_iff.mp isDirectory
      cases top_eq
      rw [List.nil_append, List.nil_append, put, at?, lookup_changeEntry fun _ => rfl, if_pos rfl]
      rfl
  | cons first others ih =>
      cases top with
      | file content => cases isDirectory
      | link target => cases isDirectory
      | directory entries =>
          rw [List.cons_append, List.cons_append, put_cons (by simp), at?,
            lookup_changeEntry fun _ => rfl, if_pos rfl]
          rw [standingAt, at?] at isDirectory
          cases node_eq : entries.lookup first with
          | none => simp [node_eq] at isDirectory
          | some node =>
              rw [node_eq] at isDirectory
              exact ih isDirectory

theorem standingAt_put_elsewhere (elsewhere : ¬ parent ++ [name] <+: place) :
    (top.put (parent ++ [name]) (some new)).standingAt place = top.standingAt place := by
  induction parent generalizing top place with
  | nil =>
      cases top with
      | file content => rfl
      | link target => rfl
      | directory entries =>
          cases place with
          | nil => rfl
          | cons first rest =>
              have notName : first ≠ name := by
                rintro rfl
                exact elsewhere ⟨rest, rfl⟩
              rw [List.nil_append, put, standingAt, standingAt, at?, at?,
                lookup_changeEntry fun _ => rfl, if_neg notName]
  | cons other others ih =>
      rw [List.cons_append] at elsewhere ⊢
      cases top with
      | file content => cases others <;> rfl
      | link target => cases others <;> rfl
      | directory entries =>
          rw [put_cons (by simp)]
          cases place with
          | nil => rfl
          | cons first rest =>
              rw [standingAt, standingAt, at?, at?, lookup_changeEntry fun _ => rfl]
              by_cases isFirst : first = other
              · subst isFirst
                -- Along the parent the place is elsewhere below the first name, too.
                have below : ¬ others ++ [name] <+: rest := fun isBelow =>
                  elsewhere (List.cons_prefix_cons.mpr ⟨rfl, isBelow⟩)
                rw [if_pos rfl]
                cases entries.lookup first with
                | none => rfl
                | some node => exact ih below
              · rw [if_neg isFirst]

/-- Nothing stands below it. -/
def IsBare (node : Node) : Prop := ∀ name rest, node.at? (name :: rest) = none

theorem isBare_file (content : ByteArray) : (file content).IsBare := fun _ _ => rfl

theorem isBare_emptyDirectory : (directory []).IsBare := fun _ _ => rfl

/-- Putting something bare in a directory, where no other directory stands, changes what stands at its
own place only. -/
theorem standingAt_put (isDirectory : top.standingAt parent = some .directory)
    (notDirectory : top.standingAt (parent ++ [name]) ≠ some .directory) (isBare : new.IsBare)
    (place : DiskPlace) :
    (top.put (parent ++ [name]) (some new)).standingAt place =
      if place = parent ++ [name] then some new.standing else top.standingAt place := by
  by_cases isBelow : parent ++ [name] <+: place
  · obtain ⟨rest, rfl⟩ := isBelow
    cases rest with
    | nil =>
        have isThere : (top.put (parent ++ [name]) (some new)).at? (parent ++ [name]) = some new :=
          at?_put_below isDirectory []
        rw [List.append_nil, if_pos rfl, standingAt, isThere]
        rfl
    | cons next others =>
        have nothingThere : (top.put (parent ++ [name]) (some new)).at?
            (parent ++ name :: next :: others) = none := by
          rw [at?_put_below isDirectory, isBare]
        have nothingBefore : top.at? (parent ++ [name] ++ next :: others) = none := by
          by_contra isThere
          exact notDirectory (standingAt_directory_of_below (List.cons_ne_nil next others)
            (Option.isSome_iff_ne_none.mpr isThere))
        rw [if_neg (by simp), standingAt, standingAt, nothingBefore, List.append_assoc,
          List.singleton_append, nothingThere]
  · rw [standingAt_put_elsewhere isBelow, if_neg]
    rintro rfl
    exact isBelow (List.prefix_refl _)

end Node

end RepoSurvey
