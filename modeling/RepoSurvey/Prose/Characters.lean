import RepoSurvey.Prose.Line
import RepoSurvey.Text.CharacterNames

/-!
# Characters written as references

`&` with a name or a number and a semicolon stands for other characters; a backslash before a
punctuation character makes it an ordinary one.
-/

namespace RepoSurvey.Prose

def isHexDigit (character : Char) : Bool :=
  character.isDigit || ('a' ≤ character && character ≤ 'f') || ('A' ≤ character && character ≤ 'F')

/-- The character with this number; numbers that belong to none stand for the replacement
character. -/
def characterOf (code : Nat) : Char :=
  if code == 0 || !code.isValidChar then '\uFFFD' else Char.ofNat code

/-- What a reference stands for and how long it is, from what follows its `&`. -/
def reference? (text : List Char) : Option (String × Nat) :=
  match text with
  | '#' :: 'x' :: rest | '#' :: 'X' :: rest =>
      let digits := (rest.take 6).takeWhile isHexDigit
      if !digits.isEmpty && (rest.drop digits.length).head? == some ';' then
        some ((characterOf (hexNumber (digits.map Char.toLower))).toString, digits.length + 4)
      else none
  | '#' :: rest =>
      let digits := (rest.take 7).takeWhile Char.isDigit
      let code := digits.foldl (fun value digit => value * 10 + (digit.toNat - '0'.toNat)) 0
      if !digits.isEmpty && (rest.drop digits.length).head? == some ';' then
        some ((characterOf code).toString, digits.length + 3)
      else none
  | _ =>
      let name := text.takeWhile Char.isAlphanum
      if (text.drop name.length).head? == some ';' then
        (characterNamed? (String.ofList name)).map fun value => (value, name.length + 2)
      else none

/-- Replaces references and drops backslashes. `skip` characters have been dealt with. -/
def unescapeFrom : Nat → List Char → List Char
  | _, [] => []
  | skip + 1, _ :: rest => unescapeFrom skip rest
  | 0, '\\' :: second :: rest =>
      if isPunctuationChar second then second :: unescapeFrom 1 (second :: rest)
      else '\\' :: unescapeFrom 0 (second :: rest)
  | 0, '&' :: rest =>
      match reference? rest with
      | some (value, length) => value.toList ++ unescapeFrom (length - 1) rest
      | none => '&' :: unescapeFrom 0 rest
  | 0, character :: rest => character :: unescapeFrom 0 rest

def unescape (text : List Char) : String := String.ofList (unescapeFrom 0 text)

end RepoSurvey.Prose
