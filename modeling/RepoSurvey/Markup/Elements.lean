/-!
# Open elements

Which elements are known by name, which hold nothing, and which end on their own when another one
starts.  Names are in upper case.
-/

namespace RepoSurvey.Markup

/-- Elements without content, and so without an end tag. -/
def voidElements : List String :=
  ["AREA", "BASE", "BASEFONT", "BGSOUND", "BR", "COL", "COMMAND", "EMBED", "FRAME", "HR", "IMAGE",
    "IMG", "INPUT", "ISINDEX", "KEYGEN", "LINK", "MENUITEM", "META", "NEXTID", "PARAM", "SOURCE",
    "TRACK", "WBR"]

/-- The other elements known by name. -/
def containerElements : List String :=
  ["A", "ABBR", "ADDRESS", "ARTICLE", "ASIDE", "AUDIO", "B", "BDI", "BDO", "BLOCKQUOTE", "BODY",
    "BUTTON", "CANVAS", "CAPTION", "CITE", "CODE", "COLGROUP", "DATA", "DATALIST", "DD", "DEL",
    "DETAILS", "DFN", "DIALOG", "DIV", "DL", "DT", "EM", "FIELDSET", "FIGCAPTION", "FIGURE",
    "FOOTER", "FORM", "H1", "H2", "H3", "H4", "H5", "H6", "HEAD", "HEADER", "HGROUP", "HTML", "I",
    "IFRAME", "INS", "KBD", "LABEL", "LEGEND", "LI", "MAIN", "MAP", "MARK", "MATH", "MENU",
    "METER", "NAV", "NOSCRIPT", "OBJECT", "OL", "OPTGROUP", "OPTION", "OUTPUT", "P", "PICTURE",
    "PRE", "PROGRESS", "Q", "RB", "RP", "RT", "RTC", "RUBY", "S", "SAMP", "SCRIPT", "SECTION",
    "SELECT", "SLOT", "SMALL", "SPAN", "STRONG", "STYLE", "SUB", "SUMMARY", "SUP", "SVG", "TABLE",
    "TBODY", "TD", "TEMPLATE", "TEXTAREA", "TFOOT", "TH", "THEAD", "TIME", "TITLE", "TR", "U",
    "UL", "VAR", "VIDEO"]

def isVoid (name : String) : Bool := voidElements.contains name

def isKnown (name : String) : Bool := containerElements.contains name || isVoid name

/-- Stands for an open element of which nothing is remembered any more. It is no element name. -/
def forgotten : String := "?"

/-- Two names stand for the same kind of element. All unknown names make up one kind. -/
def sameKind (left right : String) : Bool :=
  left == right ||
    left != forgotten && right != forgotten && !isKnown left && !isKnown right

def endsParagraph : List String :=
  ["ADDRESS", "ARTICLE", "ASIDE", "BLOCKQUOTE", "DETAILS", "DIV", "DL", "FIELDSET", "FIGCAPTION",
    "FIGURE", "FOOTER", "FORM", "H1", "H2", "H3", "H4", "H5", "H6", "HEADER", "HR", "MAIN", "NAV",
    "OL", "P", "PRE", "SECTION"]

/-- Whether an element may stay open when `child` starts inside it. -/
def canContain (parent child : String) : Bool :=
  if parent == "LI" then child != "LI"
  else if parent == "DT" || parent == "DD" then !(["DT", "DD"].contains child)
  else if parent == "P" then !endsParagraph.contains child
  else if parent == "COLGROUP" then child == "COL"
  else if ["RB", "RT", "RP"].contains parent then !(["RB", "RT", "RP"].contains child)
  else if parent == "OPTGROUP" then child != "OPTGROUP"
  else if parent == "TR" then child != "TR"
  else if parent == "TD" || parent == "TH" then !(["TD", "TH", "TR"].contains child)
  else true

/-- Elements that end with the document. -/
def endsWithDocument (name : String) : Bool := ["HTML", "HEAD", "BODY"].contains name

/-! ## Remembering them

The memory of open elements is short: an element takes one unit, an element with an unknown name
two and its name, and what does not fit is only counted. -/

def memoryLimit : Nat := 1024

/-- The longest unknown name that is remembered whole. -/
def nameLimit : Nat := 255

def memoryOf (name : String) : Nat :=
  if name == forgotten || isKnown name then 1 else 2 + min nameLimit name.length

/-- Whether `room` units are taken up by the open elements. -/
def fills (room : Nat) : List String → Bool
  | [] => room == 0
  | name :: rest =>
      if room ≤ memoryOf name then true else fills (room - memoryOf name) rest

/-- Opens an element inside those open already, the innermost first. -/
def openElement (name : String) (elements : List String) : List String :=
  let room := memoryLimit - 4
  if room ≤ memoryOf name || fills (room - memoryOf name) elements then forgotten :: elements
  else if isKnown name then name :: elements
  else String.ofList (name.toList.take nameLimit) :: elements

end RepoSurvey.Markup
