import RepoSurvey.Grammar.Compile

/-!
# The grammar of markup

Elements, text, entities, comments and document type declarations.  Which tag names open, close or
end an element on their own is left to the scanner.
-/

namespace RepoSurvey.Markup

open Grammar

private def blankOr (others : String) : CharSet := .ofString others ++ .blanks

private def runOf (excluded : CharSet) : Rule := .pattern (.many1 (.noneOf excluded))

/-- Either case of each letter. -/
private def anyCase (word : String) : Pattern :=
  .seq (word.toList.map fun letter => .chars (.single letter.toUpper ++ .single letter.toLower))

private def entityPattern : Pattern :=
  .seq [.char '&',
    .choice [
      .seq [.char '#',
        .choice [
          .seq [.oneOf "xX", .times (.chars .hexDigits) 1 5],
          .times (.chars .digits) 1 4]],
      .times (.chars .letters) 1 29],
    .optional (.char ';')]

private def textPattern : Pattern :=
  .seq [.noneOf (blankOr "<>&"),
    .optional (.seq [.many (.noneOf (.ofString "<>&")), .noneOf (blankOr "<>&")])]

private def startTag (tagName : String) : Rule :=
  seq ["<", shownAs "tag_name" (rule tagName), many (rule "attribute"), ">"]

private def rawElement (tag : String) : Rule :=
  seq [shownAs "start_tag" (rule tag), optional (rule "raw_text"), rule "end_tag"]

private def quotedValue (quote : Char) : Rule :=
  seq [.text quote.toString,
    optional (shownAs "attribute_value" (runOf (.single quote))),
    .text quote.toString]

private def rules : List (String × Rule) :=
  [define "document" (many (rule "_node")),
  define "doctype" (
    seq ["<!", shownAsToken "doctype" (rule "_doctype"), runOf (.single '>'), ">"]),
  define "_doctype" (.pattern (anyCase "doctype")),
  define "_node" (
    oneOf [rule "doctype", rule "entity", rule "text", rule "element", rule "script_element",
      rule "style_element", rule "erroneous_end_tag"]),
  define "element" (
    oneOf [
      seq [rule "start_tag", many (rule "_node"), oneOf [rule "end_tag", rule "_implicit_end_tag"]],
      rule "self_closing_tag"]),
  define "script_element" (rawElement "script_start_tag"),
  define "style_element" (rawElement "style_start_tag"),
  define "start_tag" (startTag "_start_tag_name"),
  define "script_start_tag" (startTag "_script_start_tag_name"),
  define "style_start_tag" (startTag "_style_start_tag_name"),
  define "self_closing_tag" (
    seq ["<", shownAs "tag_name" (rule "_start_tag_name"), many (rule "attribute"), "/>"]),
  define "end_tag" (seq ["</", shownAs "tag_name" (rule "_end_tag_name"), ">"]),
  define "erroneous_end_tag" (seq ["</", rule "erroneous_end_tag_name", ">"]),
  define "attribute" (
    seq [rule "attribute_name",
      optional (seq ["=", oneOf [rule "attribute_value", rule "quoted_attribute_value"]])]),
  define "attribute_name" (runOf (blankOr "<>\"'/=")),
  define "attribute_value" (runOf (blankOr "<>\"'=")),
  define "entity" (.pattern entityPattern),
  define "quoted_attribute_value" (oneOf [quotedValue '\'', quotedValue '"']),
  define "text" (.pattern textPattern)]

/-- The tokens that the scanner finds, in the order of `ScannedKind`. -/
def grammar : Grammar :=
  { rules
    extras := [rule "comment", .pattern (.many1 (.chars .blanks))]
    externals := [rule "_start_tag_name", rule "_script_start_tag_name",
      rule "_style_start_tag_name", rule "_end_tag_name", rule "erroneous_end_tag_name", "/>",
      rule "_implicit_end_tag", rule "raw_text", rule "comment"] }

end RepoSurvey.Markup
