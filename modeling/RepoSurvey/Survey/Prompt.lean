import RepoSurvey.Text.Slices

/-!
# Prompts

What a completion service is asked about a file.
-/

namespace RepoSurvey

/-- The first `limit` characters of a text, and whether there are others. It is cut where the character
after them starts; there would be nothing if that were not a place to cut. -/
def truncated? (limit : Nat) (text : String) : Option (String × Bool) :=
  match (characterStarts text)[limit]? with
  | some index => (firstBytes? index text).map (·, true)
  | none => some (text, false)

theorem truncated?_eq (limit : Nat) (text : String) :
    truncated? limit text =
      some (if limit < text.length then (firstChars limit text, true) else (text, false)) := by
  rw [truncated?]
  split
  · rename_i index isStart
    obtain ⟨isInside, _, cut⟩ := characterStarts_getElem? isStart
    rw [cut, if_pos isInside]
    rfl
  · rename_i absent
    rw [if_neg (Nat.not_lt.mpr (characterStarts_eq_none_iff.mp absent))]

/-- The start of a text that fits into a number of characters, and a note if that is not all. -/
def excerpt (limit : Nat) (text : String) : String :=
  let (start, isCut) := (truncated? limit text).get (by rw [truncated?_eq]; rfl)
  if isCut then start ++ "\n[... content truncated ...]" else start

theorem excerpt_eq (limit : Nat) (text : String) :
    excerpt limit text =
      if limit < text.length then firstChars limit text ++ "\n[... content truncated ...]"
      else text := by
  simp only [excerpt, truncated?_eq, Option.get_some]
  split <;> rfl

/-- The question about a file. At most `limit` characters of its content are told. -/
def summaryPrompt (limit : Nat) (path content : String) : String :=
  "Describe the purpose of the file `" ++ path ++ "` in two or three sentences. " ++
    "Focus on what it does, not on how it is formatted.\n\n```\n" ++ excerpt limit content ++ "\n```"

end RepoSurvey
