import RepoSurvey.Grammar.Compile
import RepoSurvey.Parsing.Lexer

/-!
# The grammar of stylesheets

CSS with nested rules, at-rules of any name and line comments.
-/

namespace RepoSurvey.Stylesheet

open Grammar Parsing

private def chars (set : CharSet) : Pattern := .chars set

private def except (excluded : String) (more : CharSet := .empty) : Pattern :=
  .noneOf (.ofString excluded ++ more)

private def identifierPattern : Pattern :=
  .seq [
    .choice [
      .text "--",
      .seq [.optional (.char '-'),
        chars (.letters ++ .single '_' ++ .between 0xA0 0xFF)]],
    .many (chars (.letters ++ .digits ++ .ofString "-_" ++ .between 0xA0 0xFF))]

private def digitsPattern : Pattern := .many1 (chars .digits)

private def blockComment : Pattern :=
  .seq [
    .text "/*",
    .many (except "*"),
    .many1 (.char '*'),
    .many (.seq [except "/*", .many (except "*"), .many1 (.char '*')]),
    .char '/']

/-- A slash in a plain value that does not open a comment. -/
private def slashInValue : Pattern :=
  .seq [.char '/', except "*,;!\x7b\x7d()[]" .blanks]

private def statements : List Rule :=
  [rule "import_statement", rule "media_statement", rule "charset_statement",
    rule "namespace_statement", rule "keyframes_statement", rule "supports_statement"]

private def commaSeparated (item : Rule) : Rule := separated "," item

private def commaSeparated1 (item : Rule) : Rule := separated1 "," item

private def argumentList : Rule :=
  seq [immediate "(",
    commaSeparated (oneOf [preferring 1 (rule "_selector"), many1 (rule "_value")]),
    ")"]

private def quoted (quote : String) (fragment : String) : Rule :=
  seq [quote,
    many (oneOf [shownAs "string_content" (rule fragment), rule "escape_sequence"]),
    quote]

private def rules : List (String × Rule) :=
  [define "stylesheet" (many (rule "_top_level_item")),
  define "_top_level_item" (oneOf ([rule "declaration", rule "rule_set"] ++ statements ++ [rule "at_rule"])),
  define "import_statement" (
    seq ["@import", rule "_value", commaSeparated (rule "_query"), ";"]),
  define "media_statement" (seq ["@media", commaSeparated1 (rule "_query"), rule "block"]),
  define "charset_statement" (seq ["@charset", rule "_value", ";"]),
  define "namespace_statement" (
    seq ["@namespace", optional (shownAs "namespace_name" (rule "identifier")),
      oneOf [rule "string_value", rule "call_expression"], ";"]),
  define "keyframes_statement" (
    seq [
      oneOf ["@keyframes",
        shownAs "at_keyword" (.pattern (.seq [.char '@',
          .many1 (chars (.range 'a' 'z' ++ .single '-')), .text "keyframes"]))],
      shownAs "keyframes_name" (rule "identifier"),
      rule "keyframe_block_list"]),
  define "keyframe_block_list" (seq ["\x7b", many (rule "keyframe_block"), "\x7d"]),
  define "keyframe_block" (
    seq [oneOf [rule "from", rule "to", rule "integer_value"], rule "block"]),
  define "from" ("from"),
  define "to" ("to"),
  define "supports_statement" (seq ["@supports", rule "_query", rule "block"]),
  define "postcss_statement" (binding (.level (-1)) (seq [rule "at_keyword", many (rule "_value"), ";"])),
  define "at_rule" (
    seq [rule "at_keyword", commaSeparated (rule "_query"), oneOf [";", rule "block"]]),
  define "rule_set" (seq [rule "selectors", rule "block"]),
  define "selectors" (commaSeparated1 (rule "_selector")),
  define "block" (
    seq ["\x7b", many (rule "_block_item"),
      optional (shownAs "declaration" (rule "last_declaration")), "\x7d"]),
  define "_block_item" (
    oneOf ([rule "declaration", rule "rule_set"] ++ statements ++
      [rule "postcss_statement", rule "at_rule"])),
  define "_selector" (
    oneOf [rule "universal_selector", shownAs "tag_name" (rule "identifier"),
      rule "class_selector", rule "nesting_selector", rule "pseudo_class_selector",
      rule "pseudo_element_selector", rule "id_selector", rule "attribute_selector",
      rule "string_value", rule "child_selector", rule "descendant_selector",
      rule "sibling_selector", rule "adjacent_sibling_selector", rule "namespace_selector"]),
  define "nesting_selector" ("&"),
  define "universal_selector" ("*"),
  define "class_selector" (
    binding (.level 1) (seq [optional (rule "_selector"), ".",
      shownAs "class_name" (rule "identifier")])),
  define "pseudo_class_selector" (
    seq [optional (rule "_selector"),
      shownAsToken ":" (rule "_pseudo_class_selector_colon"),
      oneOf [
        seq [shownAs "class_name" (oneOf ["has", "not", "is", "where", "host", "host-context"]),
          shownAs "arguments" (rule "pseudo_class_with_selector_arguments")],
        seq [shownAs "class_name" (oneOf ["nth-child", "nth-last-child"]),
          shownAs "arguments" (rule "pseudo_class_nth_child_arguments")],
        seq [shownAs "class_name" (rule "identifier"),
          optional (shownAs "arguments" (rule "pseudo_class_arguments"))]]]),
  define "pseudo_element_selector" (
    seq [optional (rule "_selector"), "::", shownAs "tag_name" (rule "identifier"),
      optional (shownAs "arguments" (rule "pseudo_element_arguments"))]),
  define "id_selector" (
    seq [optional (rule "_selector"), "#", shownAs "id_name" (rule "identifier")]),
  define "attribute_selector" (
    seq [optional (rule "_selector"), "[",
      shownAs "attribute_name" (oneOf [rule "identifier", rule "namespace_selector"]),
      optional (seq [oneOf ["=", "~=", "^=", "|=", "*=", "$="], rule "_value"]),
      "]"]),
  define "child_selector" (
    bindingLeft (.level 0) (seq [optional (rule "_selector"), ">", rule "_selector"])),
  define "descendant_selector" (
    bindingLeft (.level 0) (seq [rule "_selector", rule "_descendant_operator", rule "_selector"])),
  define "sibling_selector" (
    bindingLeft (.level 0) (seq [optional (rule "_selector"), "~", rule "_selector"])),
  define "adjacent_sibling_selector" (
    bindingLeft (.level 0) (seq [optional (rule "_selector"), "+", rule "_selector"])),
  define "namespace_selector" (
    bindingLeft (.level 0) (seq [rule "_selector", "|", rule "_selector"])),
  define "pseudo_class_arguments" (argumentList),
  define "pseudo_class_with_selector_arguments" (
    seq [immediate "(", commaSeparated (rule "_selector"), ")"]),
  define "pseudo_class_nth_child_arguments" (
    seq [immediate "(",
      oneOf [shownAs "plain_value" (oneOf ["even", "odd"]), rule "_value"],
      optional (seq ["of", rule "_selector"]),
      ")"]),
  define "pseudo_element_arguments" (argumentList),
  define "declaration" (
    seq [shownAs "property_name" (rule "identifier"), ":", rule "_value",
      many (seq [optional ",", rule "_value"]), optional (rule "important"), ";"]),
  define "last_declaration" (
    binding (.level 1) (seq [shownAs "property_name" (rule "identifier"), ":", rule "_value",
      many (seq [optional ",", rule "_value"]), optional (rule "important")])),
  define "important" ("!important"),
  define "_query" (
    oneOf [shownAs "keyword_query" (rule "identifier"), rule "feature_query",
      rule "binary_query", rule "unary_query", rule "selector_query",
      rule "parenthesized_query"]),
  define "feature_query" (
    seq ["(", shownAs "feature_name" (rule "identifier"), ":", many1 (rule "_value"), ")"]),
  define "parenthesized_query" (seq ["(", rule "_query", ")"]),
  define "binary_query" (
    bindingLeft (.level 0) (seq [rule "_query", oneOf ["and", "or"], rule "_query"])),
  define "unary_query" (binding (.level 1) (seq [oneOf ["not", "only"], rule "_query"])),
  define "selector_query" (seq ["selector", "(", rule "_selector", ")"]),
  define "_value" (
    binding (.level (-1)) (oneOf [shownAs "plain_value" (rule "identifier"), rule "plain_value",
      rule "color_value", rule "integer_value", rule "float_value", rule "string_value",
      rule "grid_value", rule "binary_expression", rule "parenthesized_value",
      rule "call_expression", rule "important"])),
  define "parenthesized_value" (seq ["(", rule "_value", ")"]),
  define "color_value" (
    seq ["#", immediate (.pattern (.times (chars .hexDigits) 3 5))]),
  define "string_value" (
    oneOf [quoted "'" "_single_string_fragment", quoted "\"" "_double_string_fragment"]),
  define "escape_sequence" (
    immediate (.pattern (.seq [.char '\\', .chars CharSet.empty.complement]))),
  define "_single_string_fragment" (
    immediate (binding (.level 1) (.pattern (.many1 (except "'\\\r\n"))))),
  define "_double_string_fragment" (
    immediate (binding (.level 1) (.pattern (.many1 (except "\"\\\r\n"))))),
  define "integer_value" (
    seq [token (seq [optional (oneOf ["+", "-"]), .pattern digitsPattern]),
      optional (rule "unit")]),
  define "float_value" (
    seq [
      token (seq [optional (oneOf ["+", "-"]), .pattern (.many (chars .digits)),
        oneOf [
          seq [".", .pattern digitsPattern],
          seq [.pattern (.oneOf "eE"), optional "-", .pattern digitsPattern],
          seq [".", .pattern digitsPattern, .pattern (.oneOf "eE"), optional "-",
            .pattern digitsPattern]]]),
      optional (rule "unit")]),
  define "unit" (immediate (.pattern (.many1 (chars (.letters ++ .single '%'))))),
  define "grid_value" (seq ["[", commaSeparated1 (rule "_value"), "]"]),
  define "call_expression" (seq [shownAs "function_name" (rule "identifier"), rule "arguments"]),
  define "binary_expression" (
    bindingLeft (.level 0) (seq [rule "_value", oneOf ["+", "-", "*", "/"], rule "_value"])),
  define "arguments" (
    seq [immediate "(", separated (oneOf [",", ";"]) (many1 (rule "_value")), ")"]),
  define "identifier" (.pattern identifierPattern),
  define "at_keyword" (.pattern (.seq [.char '@', .many1 (chars (.letters ++ .ofString "-_"))])),
  define "js_comment" (
    token (binding (.level (-1)) (seq ["//", .pattern (.many (except "\n"))]))),
  define "comment" (token (.pattern blockComment)),
  define "plain_value" (
    token (seq [
      many (oneOf [.pattern (.oneOf "-_"), .pattern slashInValue]),
      .pattern (chars .letters),
      many (oneOf [.pattern (except "/,;!\x7b\x7d()[]" .blanks), .pattern slashInValue])]))]

def grammar : Grammar :=
  { rules
    extras := [.pattern (chars .blanks), rule "comment", rule "js_comment"]
    externals := [rule "_descendant_operator", rule "_pseudo_class_selector_colon",
      rule "__error_recovery"]
    inlined := ["_top_level_item", "_block_item"] }

end RepoSurvey.Stylesheet
