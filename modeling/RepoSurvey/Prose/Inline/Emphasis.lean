import RepoSurvey.Prose.Inline.Node

/-!
# Emphasis

Runs of marks are matched from left to right.  A run that can close looks for the nearest run that
can open it; what stands between them is styled, and marks left over there are ordinary text.
-/

namespace RepoSurvey.Prose

/-- A piece of rich text, or marks whose meaning is open. -/
inductive Piece
  | node (node : Inline)
  | marks (mark : Char) (length : Nat) (canOpen canClose : Bool)

/-- Marks that may open, with what came after them in reverse. -/
structure Opener where
  mark : Char
  /-- How many marks are left. -/
  count : Nat
  /-- How many marks there were. -/
  runLength : Nat
  /-- They could have closed as well. -/
  isBoth : Bool
  content : List Inline := []

namespace Opener

/-- The marks as ordinary text, and what came after them, in reverse. -/
def flat (opener : Opener) : List Inline :=
  opener.content ++ [.text (String.ofList (List.replicate opener.count opener.mark))]

/-- Whether marks of this kind can open what a run closes. -/
def suits (opener : Opener) (mark : Char) (runLength : Nat) (isBoth : Bool) : Bool :=
  opener.mark == mark &&
    if mark == '~' then opener.runLength == runLength
    else
      (!isBoth && !opener.isBoth) || (runLength + opener.runLength) % 3 != 0 || runLength % 3 == 0

end Opener

/-- A matcher of marks. Below the lower bounds there are no openers for certain runs. -/
structure Matcher where
  /-- The openers, the last first. -/
  openers : List Opener := []
  /-- What came before all openers, in reverse. -/
  content : List Inline := []
  bounds : List (Nat × Nat) := []

namespace Matcher

/-- The bounds that hold for a run: for its mark and length, and for runs that only close. -/
def boundKey (mark : Char) (runLength : Nat) : Nat :=
  if mark == '_' then 6 + runLength % 3 else if mark == '*' then 2 + runLength % 3 else 5

def closerKey (mark : Char) : Nat := if mark == '_' then 0 else 1

def bound (matcher : Matcher) (key : Nat) : Nat := (matcher.bounds.lookup key).getD 0

def lowerBound (matcher : Matcher) (mark : Char) (runLength : Nat) (isBoth : Bool) : Nat :=
  let general := matcher.bound (boundKey mark runLength)
  if isBoth || mark == '~' then general else min general (matcher.bound (closerKey mark))

def setBound (matcher : Matcher) (key value : Nat) : Matcher :=
  { matcher with bounds := (key, value) :: matcher.bounds.filter (·.1 != key) }

/-- Notes that no opener was found for a run. -/
def noteFailure (matcher : Matcher) (mark : Char) (runLength : Nat) (isBoth : Bool) : Matcher :=
  let depth := matcher.openers.length
  if mark == '*' then
    let noted := matcher.setBound (boundKey mark runLength) depth
    if isBoth then noted else noted.setBound (closerKey mark) depth
  else if mark == '_' then
    if isBoth then matcher.setBound (boundKey mark runLength) depth
    else matcher.setBound (closerKey mark) depth
  else matcher.setBound (boundKey mark runLength) depth

/-- Adds finished nodes, given in reverse. -/
def addAll (matcher : Matcher) (nodes : List Inline) : Matcher :=
  match matcher.openers with
  | [] => { matcher with content := nodes ++ matcher.content }
  | opener :: rest =>
      { matcher with openers := { opener with content := nodes ++ opener.content } :: rest }

def add (matcher : Matcher) (node : Inline) : Matcher := matcher.addAll [node]

def push (matcher : Matcher) (opener : Opener) : Matcher :=
  let depth := matcher.openers.length
  let bounded := if opener.mark == '~' then
      matcher.setBound 5 (min (matcher.bound 5) depth)
    else matcher
  { bounded with openers := opener :: bounded.openers }

/-- Finds the last opener for a run, above the lower bound. The answer is the opener with everything
after it, and the openers before it. -/
def findIn (mark : Char) (runLength : Nat) (isBoth : Bool) (lower : Nat) (after : List Inline) :
    List Opener → Option (Opener × List Opener)
  | [] => none
  | opener :: rest =>
      if rest.length < lower then none
      else if opener.suits mark runLength isBoth then
        some ({ opener with content := after ++ opener.content }, rest)
      else findIn mark runLength isBoth lower (after ++ opener.flat) rest

def find (matcher : Matcher) (mark : Char) (runLength : Nat) (isBoth : Bool) :
    Option (Opener × Matcher) :=
  (findIn mark runLength isBoth (matcher.lowerBound mark runLength isBoth) []
      matcher.openers).map fun (opener, rest) =>
    (opener,
      { matcher with
        openers := rest
        bounds := matcher.bounds.map fun (key, value) => (key, min value rest.length) })

/-- Puts `count` marks around nodes, two at a time from the inside. -/
def wrap (mark : Char) (count : Nat) (nodes : List Inline) : List Inline :=
  if mark == '~' then if count == 0 then nodes else [.styled .strikethrough nodes]
  else
    let doubled := (List.range (count / 2)).foldl (fun nodes _ => [.styled .strong nodes]) nodes
    if count % 2 == 1 then [.styled .emphasis doubled] else doubled

/-- Closes with a run of which `count` marks are left. The answer is how many are left then. The
fuel exceeds the number of marks. -/
def close (mark : Char) (runLength : Nat) (isBoth : Bool) : Nat → Nat → Matcher → Nat × Matcher
  | 0, count, matcher => (count, matcher)
  | fuel + 1, count, matcher =>
      if count == 0 then (0, matcher)
      else
        match matcher.find mark runLength isBoth with
        | none => (count, matcher.noteFailure mark runLength isBoth)
        | some (opener, rest) =>
            let used := min count opener.count
            let styled := wrap mark used opener.content.reverse
            let next := if used < opener.count then
                rest.push { opener with count := opener.count - used, content := styled.reverse }
              else rest.addAll styled.reverse
            close mark runLength isBoth fuel (count - used) next

def step (matcher : Matcher) : Piece → Matcher
  | .node node => matcher.add node
  | .marks mark length canOpen canClose =>
      let isBoth := canOpen && canClose
      let (left, closed) :=
        if canClose then close mark length isBoth (length + 1) length matcher else (length, matcher)
      if left == 0 then closed
      else if canOpen then closed.push ⟨mark, left, length, isBoth, []⟩
      else closed.add (.text (String.ofList (List.replicate left mark)))

/-- Everything in order; marks left over are ordinary text. -/
def finish (matcher : Matcher) : List Inline :=
  ((matcher.openers.flatMap Opener.flat) ++ matcher.content).reverse

end Matcher

/-- Decides what marks mean. -/
def emphasize (pieces : List Piece) : List Inline :=
  (pieces.foldl Matcher.step {}).finish

end RepoSurvey.Prose
