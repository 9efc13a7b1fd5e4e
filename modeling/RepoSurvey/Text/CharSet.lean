/-!
# Sets of characters

A set of code points is a list of closed intervals, ascending, disjoint and with a gap between
neighbours, so that equal sets are equal lists.
-/

namespace RepoSurvey

/-- A set of code points, given by its maximal intervals in ascending order. -/
structure CharSet where
  spans : List (Nat × Nat)
  deriving BEq, DecidableEq, Hashable, Repr, Inhabited

namespace CharSet

/-- The largest code point. -/
def topCode : Nat := 0x10FFFF

def empty : CharSet := ⟨[]⟩

/-- The code points from `first` to `last`, both included. -/
def between (first last : Nat) : CharSet :=
  ⟨if first ≤ last then [(first, last)] else []⟩

def single (character : Char) : CharSet := between character.toNat character.toNat

/-- Characters from `first` to `last`, both included. -/
def range (first last : Char) : CharSet := between first.toNat last.toNat

/-- Adds one interval, merging it with every interval it touches. -/
def insertSpan (lo hi : Nat) : List (Nat × Nat) → List (Nat × Nat)
  | [] => [(lo, hi)]
  | (first, last) :: rest =>
      if hi + 1 < first then (lo, hi) :: (first, last) :: rest
      else if last + 1 < lo then (first, last) :: insertSpan lo hi rest
      else insertSpan (min lo first) (max hi last) rest

def union (left right : CharSet) : CharSet :=
  ⟨right.spans.foldl (fun spans span => insertSpan span.1 span.2 spans) left.spans⟩

instance : Append CharSet := ⟨union⟩

/-- The gaps of an ascending list of intervals, from `start` to the largest code point. -/
def gaps (start : Nat) : List (Nat × Nat) → List (Nat × Nat)
  | [] => if start ≤ topCode then [(start, topCode)] else []
  | (first, last) :: rest =>
      if start < first then (start, first - 1) :: gaps (last + 1) rest
      else gaps (last + 1) rest

/-- Every code point that is not in the set. -/
def complement (set : CharSet) : CharSet := ⟨gaps 0 set.spans⟩

/-- The characters of a text, as a set. -/
def ofString (text : String) : CharSet :=
  text.toList.foldl (fun set character => set.union (single character)) empty

def containsCode (set : CharSet) (code : Nat) : Bool :=
  set.spans.any fun span => span.1 ≤ code && code ≤ span.2

def contains (set : CharSet) (character : Char) : Bool := set.containsCode character.toNat

/-- The decimal digits. -/
def digits : CharSet := range '0' '9'

def letters : CharSet := range 'a' 'z' ++ range 'A' 'Z'

/-- Tab, line feed, vertical tab, form feed, carriage return and space. -/
def blanks : CharSet := between 9 13 ++ between 32 32

def hexDigits : CharSet := digits ++ range 'a' 'f' ++ range 'A' 'F'

/-- The Unicode space separators. -/
def spaceSeparators : CharSet :=
  ⟨[(0x20, 0x20), (0xA0, 0xA0), (0x1680, 0x1680), (0x2000, 0x200A), (0x202F, 0x202F),
    (0x205F, 0x205F), (0x3000, 0x3000)]⟩

end CharSet

end RepoSurvey
