import Mathlib.Algebra.Order.Ring.Int
import RepoSurvey.Json.Reader
import RepoSurvey.Proofs.Json.Ordered

/-!
# The grammar of documents

Which texts stand for a document, with white space between the parts and with every way of escaping a
single character.  Numbers are integers that are kept exactly.  Both ways of writing a document give
texts of the grammar.
-/

namespace RepoSurvey.Json

/-- Some white space. -/
def Blanks (text : List Char) : Prop := ∀ character ∈ text, isBlank character = true

/-- What a letter after a backslash stands for. -/
def escapes : List (Char × Char) :=
  [('"', '"'), ('\\', '\\'), ('/', '/'), ('b', '\x08'), ('f', '\x0c'), ('n', '\n'), ('r', '\r'),
    ('t', '\t')]

/-- The value of some digits of base sixteen. -/
def hexNumber (digits : List Char) : Option Nat :=
  digits.foldlM (fun number digit => (TextProgress.hexValue digit).map (number * 16 + ·)) 0

/-- What stands between quotation marks for a text. -/
inductive QuotedText : List Char → List Char → Prop
  | nil : QuotedText [] []
  | plain {character : Char} {content text : List Char} (isPlain : isPlainChar character = true)
      (rest : QuotedText content text) : QuotedText (character :: content) (character :: text)
  | escape {letter meant : Char} {content text : List Char} (isEscape : (letter, meant) ∈ escapes)
      (rest : QuotedText content text) : QuotedText (meant :: content) ('\\' :: letter :: text)
  | code {first second third fourth meant : Char} {content text : List Char}
      (isCode : hexNumber [first, second, third, fourth] = some meant.toNat)
      (rest : QuotedText content text) :
      QuotedText (meant :: content)
        ('\\' :: 'u' :: first :: second :: third :: fourth :: text)

/-- An integer that is kept exactly, without leading zeros. -/
inductive IntegerText : Int → List Char → Prop
  | zero : IntegerText 0 ['0']
  | natural {first : Char} {digits : List Char} (areDigits : ∀ digit ∈ first :: digits, digit.isDigit)
      (noLeadingZero : first ≠ '0') (isExact : Nat.ofDigitChars 10 (first :: digits) 0 < 2 ^ 64) :
      IntegerText (Nat.ofDigitChars 10 (first :: digits) 0) (first :: digits)
  | negative {first : Char} {digits : List Char}
      (areDigits : ∀ digit ∈ first :: digits, digit.isDigit) (noLeadingZero : first ≠ '0')
      (isExact : Nat.ofDigitChars 10 (first :: digits) 0 ≤ 2 ^ 63) :
      IntegerText (-(Nat.ofDigitChars 10 (first :: digits) 0 : Int)) ('-' :: first :: digits)

/-- A key in quotation marks and the colon after it. -/
inductive KeyText : String → List Char → Prop
  | key {key : String} {before text after : List Char} (blanksBefore : Blanks before)
      (isQuoted : QuotedText key.toList text) (blanksAfter : Blanks after) :
      KeyText key (before ++ '"' :: (text ++ '"' :: (after ++ [':'])))

mutual

/-- A text stands for a document. -/
inductive ValueText : Ordered → List Char → Prop
  | null : ValueText .null ['n', 'u', 'l', 'l']
  | true : ValueText (.bool true) ['t', 'r', 'u', 'e']
  | false : ValueText (.bool false) ['f', 'a', 'l', 's', 'e']
  | number {value : Int} {text : List Char} (isInteger : IntegerText value text) :
      ValueText (.number (.integer value)) text
  | string {content : String} {text : List Char} (isQuoted : QuotedText content.toList text) :
      ValueText (.string content) ('"' :: (text ++ ['"']))
  | emptyArray {blanks : List Char} (areBlanks : Blanks blanks) :
      ValueText (.array []) ('[' :: (blanks ++ [']']))
  | array {items : List Ordered} {text : List Char} (areItems : ItemsText items text) :
      ValueText (.array items) ('[' :: (text ++ [']']))
  | emptyObject {blanks : List Char} (areBlanks : Blanks blanks) :
      ValueText (.object []) ('\x7b' :: (blanks ++ ['\x7d']))
  | object {members : List (String × Ordered)} {text : List Char}
      (areMembers : MembersText members text) :
      ValueText (.object members) ('\x7b' :: (text ++ ['\x7d']))

/-- A document with white space around it. -/
inductive PaddedText : Ordered → List Char → Prop
  | padded {value : Ordered} {before text after : List Char} (blanksBefore : Blanks before)
      (isValue : ValueText value text) (blanksAfter : Blanks after) :
      PaddedText value (before ++ (text ++ after))

/-- At least one item, with commas between them. -/
inductive ItemsText : List Ordered → List Char → Prop
  | last {item : Ordered} {text : List Char} (isItem : PaddedText item text) :
      ItemsText [item] text
  | more {item : Ordered} {rest : List Ordered} {text others : List Char}
      (isItem : PaddedText item text) (areItems : ItemsText rest others) :
      ItemsText (item :: rest) (text ++ ',' :: others)

/-- At least one member, with commas between them. -/
inductive MembersText : List (String × Ordered) → List Char → Prop
  | last {key : String} {item : Ordered} {keyText text : List Char} (isKey : KeyText key keyText)
      (isItem : PaddedText item text) : MembersText [(key, item)] (keyText ++ text)
  | more {key : String} {item : Ordered} {rest : List (String × Ordered)}
      {keyText text others : List Char} (isKey : KeyText key keyText)
      (isItem : PaddedText item text) (areMembers : MembersText rest others) :
      MembersText ((key, item) :: rest) (keyText ++ (text ++ ',' :: others))

end

end RepoSurvey.Json
