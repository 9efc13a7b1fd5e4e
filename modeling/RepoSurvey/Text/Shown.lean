import RepoSurvey.Text.UnseenCharacters

/-!
# Texts that show every character

Texts in quotation marks for messages: whatever could not be told by sight is spelled out.
-/

namespace RepoSurvey

/-- The hexadecimal digits of a number, in small letters and without zeros in front. -/
def hexDigits (number : Nat) : String := String.ofList (Nat.toDigits 16 number)

def shownChar (character : Char) : String :=
  if character == '"' then "\\\""
  else if character == '\\' then "\\\\"
  else if character == '\n' then "\\n"
  else if character == '\r' then "\\r"
  else if character == '\t' then "\\t"
  else if character.toNat == 0 then "\\0"
  else if 0x20 ≤ character.toNat && character.toNat < 0x7F then character.toString
  else if CharSet.unseen.contains character then "\\u\x7b" ++ hexDigits character.toNat ++ "\x7d"
  else character.toString

/-- A text in quotation marks. -/
def shown (text : String) : String :=
  text.foldl (fun quoted character => quoted ++ shownChar character) "\"" ++ "\""

end RepoSurvey
