import RepoSurvey.Text.CharSet

/-!
# Classes of characters

Given finitely many sets of characters, two characters are in the same class when no set tells them
apart.  A set is then a set of class numbers, kept as the bits of a natural number.
-/

namespace RepoSurvey

/-- A partition of the code points into numbered classes. -/
structure CharClasses where
  /-- The first code point of each interval on which the class is constant, ascending from zero. -/
  starts : Array Nat
  /-- The class of each of those intervals. -/
  classOf : Array Nat
  /-- The classes of the first 128 code points. -/
  ascii : Array Nat
  count : Nat
  deriving Inhabited

namespace CharClasses

/-- The number of the last entry of `starts` that is at most `code`, found by halving. -/
def intervalOf (starts : Array Nat) (code : Nat) : Nat → Nat → Nat → Nat
  | 0, low, _ => low
  | fuel + 1, low, high =>
      if high ≤ low + 1 then low
      else
        let middle := (low + high) / 2
        if starts[middle]! ≤ code then intervalOf starts code fuel middle high
        else intervalOf starts code fuel low middle

/-- The class of a code point. -/
def ofCode (classes : CharClasses) (code : Nat) : Nat :=
  if code < 128 then classes.ascii[code]!
  else
    classes.classOf[intervalOf classes.starts code 32 0 classes.starts.size]!

/-- Drops equal neighbours from an ascending list. -/
def distinct : List Nat → List Nat
  | first :: second :: rest =>
      if first == second then distinct (second :: rest) else first :: distinct (second :: rest)
  | short => short

/-- The coarsest partition that respects every one of `sets`. -/
def ofSets (sets : List CharSet) : CharClasses := Id.run do
  let bounds := sets.flatMap fun set => set.spans.flatMap fun span => [span.1, span.2 + 1]
  let starts := (distinct ((0 :: bounds).mergeSort (· ≤ ·))).toArray
  let mut signatures : Array (List Bool) := #[]
  let mut classOf : Array Nat := #[]
  for start in starts do
    let signature := sets.map (·.containsCode start)
    match signatures.findIdx? (· == signature) with
    | some index => classOf := classOf.push index
    | none =>
        classOf := classOf.push signatures.size
        signatures := signatures.push signature
  let ascii := (Array.range 128).map fun code =>
    classOf[intervalOf starts code 32 0 starts.size]!
  return { starts, classOf, ascii, count := signatures.size }

/-- The classes that make up a set, as bits. -/
def bitsOf (classes : CharClasses) (set : CharSet) : Nat :=
  (List.range classes.starts.size).foldl (fun bits index =>
    if set.containsCode classes.starts[index]! then bits ||| (1 <<< classes.classOf[index]!)
    else bits) 0

end CharClasses

end RepoSurvey
