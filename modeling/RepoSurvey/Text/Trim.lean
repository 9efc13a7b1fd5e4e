/-!
# Ends of texts

White space, and what may be taken off the ends of a text.
-/

namespace RepoSurvey

/-- The characters that Unicode counts as white space. -/
def isWhiteSpace (character : Char) : Bool :=
  let code := character.toNat
  (9 ≤ code && code ≤ 13) || code == 0x20 || code == 0x85 || code == 0xA0 || code == 0x1680 ||
    (0x2000 ≤ code && code ≤ 0x200A) || code == 0x2028 || code == 0x2029 || code == 0x202F ||
    code == 0x205F || code == 0x3000

/-- Drops the characters that satisfy `test` from the end. -/
def dropEndWhile (test : Char → Bool) (characters : List Char) : List Char :=
  (characters.reverse.dropWhile test).reverse

/-- A text without the characters that satisfy `test` at its start. -/
def trimStart (test : Char → Bool) (text : String) : String :=
  String.ofList (text.toList.dropWhile test)

def trimEnd (test : Char → Bool) (text : String) : String :=
  String.ofList (dropEndWhile test text.toList)

/-- A text without white space at its ends. -/
def trim (text : String) : String :=
  String.ofList (dropEndWhile isWhiteSpace (text.toList.dropWhile isWhiteSpace))

/-- A text without a prefix, if it starts with it. -/
def withoutPrefix? (start : String) (text : String) : Option String :=
  if start.toList.isPrefixOf text.toList then some (String.ofList (text.toList.drop start.length))
  else none

def withoutSuffix? (ending : String) (text : String) : Option String :=
  if ending.toList.isSuffixOf text.toList then
    some (String.ofList (text.toList.take (text.length - ending.length)))
  else none

/-- The inside of a text that starts with `opening`, without `closing` if it ends with that; a text
that starts otherwise stays whole. -/
def between (opening closing : String) (text : String) : String :=
  match withoutPrefix? opening text with
  | none => text
  | some inside => (withoutSuffix? closing inside).getD inside

/-- The first `limit` characters of a text. -/
def firstChars (limit : Nat) (text : String) : String := String.ofList (text.toList.take limit)

/-- A text with the ASCII capitals made small. -/
def asciiLower (text : String) : String := text.map Char.toLower

end RepoSurvey
