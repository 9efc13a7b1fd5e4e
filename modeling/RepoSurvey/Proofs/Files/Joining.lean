import RepoSurvey.Files.Listing

/-!
# Names with slashes between them

Names without slashes can be read back from the text that joins them with slashes.  So what a path
says about ignored directories is what its names say.
-/

namespace RepoSurvey

theorem splitAt_eq_splitOn (separator : Char) (text : List Char) :
    splitAt separator text = text.splitOn separator := by
  induction text with
  | nil => rfl
  | cons character rest ih =>
      rw [splitAt, ih, List.splitOn_cons_eq_if_modifyHead]
      obtain ⟨first, others, parts⟩ := List.exists_cons_of_ne_nil (rest.splitOn_ne_nil separator)
      simp only [parts, List.modifyHead_cons]

/-- No part of a text holds what it was split at. -/
theorem notMem_of_mem_splitAt {separator : Char} {text part : List Char}
    (isPart : part ∈ splitAt separator text) : separator ∉ part := by
  induction text generalizing part with
  | nil =>
      rw [splitAt, List.mem_singleton] at isPart
      rw [isPart]
      exact List.not_mem_nil
  | cons character rest ih =>
      obtain ⟨first, others, parts⟩ := List.exists_cons_of_ne_nil (rest.splitOn_ne_nil separator)
      rw [← splitAt_eq_splitOn] at parts
      rw [parts] at ih
      rw [splitAt, parts] at isPart
      dsimp only at isPart
      split at isPart
      · rcases List.mem_cons.mp isPart with rfl | isRest
        · exact List.not_mem_nil
        · exact ih isRest
      · rename_i notSeparator
        rcases List.mem_cons.mp isPart with rfl | isOther
        · rw [List.mem_cons, not_or]
          exact ⟨fun same => notSeparator (beq_iff_eq.mpr same.symm), ih List.mem_cons_self⟩
        · exact ih (List.mem_cons_of_mem _ isOther)

/-- Whether a name can be one component of a path. -/
def IsName (name : String) : Prop := '/' ∉ name.toList

instance (name : String) : Decidable (IsName name) := inferInstanceAs (Decidable (¬ _))

theorem splitAt_intercalate {place : List String} (nonempty : place ≠ [])
    (areNames : ∀ name ∈ place, IsName name) :
    (splitAt '/' ("/".intercalate place).toList).map String.ofList = place := by
  have noSlash : ∀ name ∈ place.map String.toList, '/' ∉ name := by
    rw [List.forall_mem_map]
    exact areNames
  rw [splitAt_eq_splitOn, String.toList_intercalate,
    show "/".toList = ['/'] from rfl,
    List.splitOn_intercalate '/' noSlash (by simpa using nonempty), List.map_map]
  simp [Function.comp_def]

/-- Only the names before the last one decide whether a path is ignored. -/
theorem IgnoredNames.ignoresPath_intercalate (ignored : IgnoredNames) {place : List String}
    (nonempty : place ≠ []) (areNames : ∀ name ∈ place, IsName name) :
    ignored.ignoresPath ("/".intercalate place) = place.dropLast.any ignored.ignores := by
  rw [ignoresPath, List.map_dropLast, splitAt_intercalate nonempty areNames]

end RepoSurvey
