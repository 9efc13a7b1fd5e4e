import RepoSurvey.Proofs.Survey.Record
import RepoSurvey.Survey.Run

/-!
# What a prompt tells

A prompt tells the path of a file and the start of its content.  What lies behind the start is not told,
so files that differ there only are asked about with the same prompt.
-/

namespace RepoSurvey

theorem firstChars_min (limit : Nat) (text : String) :
    firstChars (min limit text.length) text = firstChars limit text := by
  rw [firstChars, firstChars, ← String.length_toList, ← List.take_take, List.take_length]

theorem firstChars_of_length_le {limit : Nat} {text : String} (fits : text.length ≤ limit) :
    firstChars limit text = text := by
  rw [firstChars, List.take_of_length_le (by rwa [String.length_toList]), String.ofList_toList]

/-- An excerpt is the start of a text, and the note that there is more. -/
theorem excerpt_eq_append (limit : Nat) (text : String) :
    excerpt limit text =
      firstChars limit text ++
        if limit < text.length then "\n[... content truncated ...]" else "" := by
  rw [excerpt_eq]
  split
  · rfl
  · rename_i fits
    rw [firstChars_of_length_le (Nat.le_of_not_lt fits), String.append_empty]

/-- Texts that start alike, and have more than is told, have the same excerpt. -/
theorem excerpt_of_same_start {limit : Nat} {text other : String} (isLong : limit < text.length)
    (otherIsLong : limit < other.length)
    (startAlike : firstChars limit text = firstChars limit other) :
    excerpt limit text = excerpt limit other := by
  rw [excerpt_eq, excerpt_eq, if_pos isLong, if_pos otherIsLong, startAlike]

theorem summaryPrompt_of_same_start {limit : Nat} {content other : String} (path : String)
    (isLong : limit < content.length) (otherIsLong : limit < other.length)
    (startAlike : firstChars limit content = firstChars limit other) :
    summaryPrompt limit path content = summaryPrompt limit path other := by
  have sameExcerpt := excerpt_of_same_start isLong otherIsLong startAlike
  unfold summaryPrompt
  exact congrArg (fun told => _ ++ told ++ _) sameExcerpt

/-- The place where a content is cut is one where a character starts, and what is cut off there are the
characters that are told. -/
theorem truncated?_cuts {limit index : Nat} {text : String}
    (isStart : (characterStarts text)[limit]? = some index) :
    isBoundary text index = true ∧ firstBytes? index text = some (firstChars limit text) ∧
      truncated? limit text = some (firstChars limit text, true) := by
  obtain ⟨_, canCut, cut⟩ := characterStarts_getElem? isStart
  refine ⟨canCut, cut, ?_⟩
  rw [truncated?, isStart]
  exact congrArg (Option.map (·, true)) cut

/-- What the completion service is asked, or will be asked, when a file has come so far. -/
def Progress.prompt? : Progress → Option String
  | queued _ prompt => some prompt
  | asking _ prompt => some prompt
  | loading .. => none
  | parsing .. => none
  | finished _ => none

/-- The prompt of a file that was parsed is about what was loaded. -/
theorem Progress.prompt?_parsed {languages : Languages} {settings : RecordSettings}
    {path prompt : String} {content : ByteArray} {lost : Option String}
    (isAsked : (parsed languages settings path content lost).prompt? = some prompt) :
    ∃ limit, settings.promptLimit = some limit ∧
      prompt = summaryPrompt limit path (decodeText content) := by
  obtain ⟨record, _, isFinished | ⟨limit, isLimit, isQueued⟩⟩ :=
    parsed_cases languages settings path content lost
  · rw [isFinished] at isAsked
    cases isAsked
  · rw [isQueued] at isAsked
    cases isAsked
    exact ⟨limit, isLimit, rfl⟩

/-- A prompt tells the first characters of a content, as many as it may or as there are, and notes if that
is not all.  A content that has more is cut between two characters, so it can be cut, and what comes
behind the cut has no part in what the completion service is asked, or in what a survey asks it. -/
theorem summaryPrompt_tells_start (limit : Nat) (path content : String) :
    summaryPrompt limit path content =
        "Describe the purpose of the file `" ++ path ++ "` in two or three sentences. " ++
          "Focus on what it does, not on how it is formatted.\n\n```\n" ++
          String.ofList (content.toList.take (min limit content.length)) ++
          (if limit < content.length then "\n[... content truncated ...]" else "") ++ "\n```" ∧
      ((characterStarts content)[limit]?.isSome ↔ limit < content.length) ∧
      (∀ index, (characterStarts content)[limit]? = some index →
        isBoundary content index = true ∧
          firstBytes? index content = some (String.ofList (content.toList.take limit)) ∧
          truncated? limit content = some (String.ofList (content.toList.take limit), true)) ∧
      ∀ other, limit < content.length → limit < other.length →
        content.toList.take limit = other.toList.take limit →
          summaryPrompt limit path content = summaryPrompt limit path other ∧
          (∀ (m : Type → Type) [Monad m] (summarizer : Summarizer m),
            summarizer.promptLimit = limit →
              summarizer.summarize path content = summarizer.summarize path other) ∧
          ∀ (languages : Languages) (settings : RecordSettings) (bytes otherBytes : ByteArray)
            (prompt otherPrompt : String), settings.promptLimit = some limit →
            decodeText bytes = content → decodeText otherBytes = other →
            (Progress.parsed languages settings path bytes none).prompt? = some prompt →
            (Progress.parsed languages settings path otherBytes none).prompt? = some otherPrompt →
              prompt = otherPrompt := by
  refine ⟨?_, ?_, fun index => truncated?_cuts, ?_⟩
  · have told := excerpt_eq_append limit content
    rw [← firstChars_min, firstChars] at told
    unfold summaryPrompt
    rw [told]
    exact congrArg (· ++ _) String.append_assoc.symm
  · have absent : (characterStarts content)[limit]? = none ↔ content.length ≤ limit :=
      characterStarts_eq_none_iff
    rw [Option.isSome_iff_ne_none, ne_eq, absent, Nat.not_le]
  · intro other isLong otherIsLong startAlike
    have sameStart : firstChars limit content = firstChars limit other :=
      congrArg String.ofList startAlike
    have samePrompt := summaryPrompt_of_same_start path isLong otherIsLong sameStart
    refine ⟨samePrompt, ?_, ?_⟩
    · rintro m _ summarizer rfl
      rw [Summarizer.summarize, Summarizer.summarize, samePrompt]
    · rintro languages settings bytes otherBytes prompt otherPrompt isLimit rfl rfl isAsked
        otherIsAsked
      obtain ⟨told, told_eq, rfl⟩ := Progress.prompt?_parsed isAsked
      obtain ⟨otherTold, otherTold_eq, rfl⟩ := Progress.prompt?_parsed otherIsAsked
      cases isLimit.symm.trans told_eq
      cases isLimit.symm.trans otherTold_eq
      exact samePrompt

/-- A completion service that gives every prompt back. -/
def echoing : Summarizer Id where
  promptLimit := 3
  awaitTurn := ()
  complete prompt := .ok prompt

/-- Of these two files a quotation mark, a letter of two bytes and a sign of four bytes are told. -/
theorem summaryPrompt_tells_start_of_quotations :
    (characterStarts "\"é😀a\"")[3]? = some 7 ∧ isBoundary "\"é😀a\"" 7 = true ∧
      firstBytes? 7 "\"é😀a\"" = some "\"é😀" ∧
      echoing.summarize "a.json" "\"é😀a\"" = echoing.summarize "a.json" "\"é😀bc\"" ∧
      (Progress.parsed {} { promptLimit := some 3 } "a.json" "\"é😀a\"".toUTF8 none).prompt? =
        (Progress.parsed {} { promptLimit := some 3 } "a.json" "\"é😀bc\"".toUTF8 none).prompt? ∧
      (Progress.parsed {} { promptLimit := some 3 } "a.json" "\"é😀a\"".toUTF8 none).prompt?.isSome =
        true := by
  obtain ⟨_, _, cuts, alike⟩ := summaryPrompt_tells_start 3 "a.json" "\"é😀a\""
  obtain ⟨canCut, cut, _⟩ := cuts 7 (by decide +kernel)
  obtain ⟨_, summarizedAlike, askedAlike⟩ :=
    alike "\"é😀bc\"" (by decide +kernel) (by decide +kernel) (by decide +kernel)
  have isAsked : (Progress.parsed {} { promptLimit := some 3 } "a.json" "\"é😀a\"".toUTF8
      none).prompt?.isSome = true := by decide +kernel
  have otherIsAsked : (Progress.parsed {} { promptLimit := some 3 } "a.json" "\"é😀bc\"".toUTF8
      none).prompt?.isSome = true := by decide +kernel
  obtain ⟨prompt, prompt_eq⟩ := Option.isSome_iff_exists.mp isAsked
  obtain ⟨otherPrompt, otherPrompt_eq⟩ := Option.isSome_iff_exists.mp otherIsAsked
  have samePrompt := askedAlike {} { promptLimit := some 3 } _ _ prompt otherPrompt rfl
    (by decide +kernel) (by decide +kernel) prompt_eq otherPrompt_eq
  refine ⟨by decide +kernel, canCut, cut.trans (by decide +kernel), summarizedAlike Id echoing rfl,
    ?_, isAsked⟩
  rw [prompt_eq, otherPrompt_eq, samePrompt]

end RepoSurvey
