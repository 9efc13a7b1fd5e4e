import RepoSurvey.Script.Rules.Expressions

/-!
# Literals, names and members

Strings, templates, regular expressions, numbers and identifiers, and the members of classes and
objects.
-/

namespace RepoSurvey.Script

open Grammar

/-- What separates words: blanks, other Unicode spaces, line separators and some invisible
characters. -/
def spaces : CharSet :=
  CharSet.blanks ++ .spaceSeparators ++ .between 0xFEFF 0xFEFF ++ .between 0x2028 0x2029 ++
    .between 0x2060 0x2060 ++ .between 0x200B 0x200B

private def notInNames : CharSet :=
  .between 0 0x1F ++ spaces ++ .ofString ":;`\"'@#.,|^&<=>+-*/\\%?!~()[]\x7b\x7d"

private def hexEscape : Pattern := .seq [.text "\\u", .times (.chars .hexDigits) 4 0]

private def bracedEscape : Pattern :=
  .seq [.text "\\u\x7b", .many1 (.chars .hexDigits), .text "\x7d"]

private def nameStart : Pattern :=
  .choice [.noneOf (notInNames ++ .digits), hexEscape, bracedEscape]

private def nameRest : Pattern := .choice [.noneOf notInNames, hexEscape, bracedEscape]

private def namePattern : Rule := seq [.pattern nameStart, many (.pattern nameRest)]

/-- Digits with single underscores between them. -/
private def grouped (digit : CharSet) : Pattern :=
  .seq [.chars digit, .many (.seq [.optional (.char '_'), .chars digit])]

private def numberRule : Rule :=
  let hex := seq [oneOf ["0x", "0X"], .pattern (grouped .hexDigits)]
  let digits : Rule := .pattern (grouped .digits)
  let exponent := seq [oneOf ["e", "E"], seq [optional (oneOf ["-", "+"]), digits]]
  let binary := seq [oneOf ["0b", "0B"], .pattern (grouped (.range '0' '1'))]
  let octal := seq [oneOf ["0o", "0O"], .pattern (grouped (.range '0' '7'))]
  let integer := oneOf ["0",
    seq [optional "0", .pattern (.chars (.range '1' '9')), optional (seq [optional "_", digits])]]
  let decimal := oneOf [
    seq [integer, ".", optional digits, optional exponent],
    seq [".", digits, optional exponent],
    seq [integer, exponent],
    digits]
  token (oneOf [hex, decimal, binary, octal,
    seq [oneOf [hex, binary, octal, digits], "n"]])

private def fragment (quote : Char) : Rule :=
  immediate (binding (.level 1) (.pattern (.many1 (.noneOf
    (.single quote ++ .ofString "\\\r\n")))))

private def quoted (quote : String) (fragment : String) : Rule :=
  seq [quote,
    many (oneOf [shownAs "string_fragment" (rule fragment), rule "escape_sequence"]),
    quote]

private def anyButNewline : Pattern := .noneOf (.ofString "\n")

private def escapeSequence : Rule :=
  immediate (seq ["\\",
    oneOf [
      .pattern (.noneOf (.ofString "xu" ++ .range '0' '7')),
      .pattern (.times (.chars (.range '0' '7')) 1 2),
      .pattern (.seq [.char 'x', .times (.chars .hexDigits) 2 0]),
      .pattern (.seq [.char 'u', .times (.chars .hexDigits) 4 0]),
      .pattern (.seq [.text "u\x7b", .many1 (.chars .hexDigits), .text "\x7d"]),
      .pattern (.seq [.oneOf "\r?", .chars (.single '\n' ++ .between 0x2028 0x2029)])]])

private def blockComment : Pattern :=
  .seq [.many (.noneOf (.single '*')), .many1 (.char '*'),
    .many (.seq [.noneOf (.ofString "/*"), .many (.noneOf (.single '*')), .many1 (.char '*')])]

private def commentRule : Rule :=
  token (oneOf [
    seq ["//", .pattern (.many (.noneOf (.ofString "\r\n" ++ .between 0x2028 0x2029)))],
    seq ["/*", .pattern blockComment, "/"]])

private def regexPattern : Rule :=
  immediate (binding (.level (-1)) (many1 (oneOf [
    seq ["[",
      many (oneOf [seq ["\\", .pattern anyButNewline], .pattern (.noneOf (.ofString "]\n\\"))]),
      "]"],
    seq ["\\", .pattern anyButNewline],
    .pattern (.noneOf (.ofString "/\\[\n"))])))

private def literalRules : List (String × Rule) :=
  [define "string" (
    oneOf [quoted "\"" "unescaped_double_string_fragment",
      quoted "'" "unescaped_single_string_fragment"]),
  define "unescaped_double_string_fragment" (fragment '"'),
  define "unescaped_single_string_fragment" (fragment '\''),
  define "escape_sequence" escapeSequence,
  define "comment" commentRule,
  define "template_string" (
    seq ["`",
      many (oneOf [shownAs "string_fragment" (rule "_template_chars"), rule "escape_sequence",
        rule "template_substitution"]),
      "`"]),
  define "template_substitution" (seq ["$\x7b", rule "_expressions", "\x7d"]),
  define "regex" (
    seq ["/", field "pattern" (rule "regex_pattern"), immediate (binding (.level 1) "/"),
      optional (field "flags" (rule "regex_flags"))]),
  define "regex_pattern" regexPattern,
  define "regex_flags" (immediate (.pattern (.many1 (.chars (.range 'a' 'z'))))),
  define "number" numberRule,
  define "_identifier" (oneOf [rule "undefined", rule "identifier"]),
  define "identifier" (token namePattern),
  define "private_property_identifier" (
    token (seq ["#", .pattern nameStart, many (.pattern nameRest)])),
  define "meta_property" (oneOf [seq ["new", ".", "target"], seq ["import", ".", "meta"]]),
  define "this" "this",
  define "super" "super",
  define "true" "true",
  define "false" "false",
  define "null" "null",
  define "undefined" "undefined",
  define "arguments" (
    seq ["(", commaSeparated (optional (oneOf [rule "expression", rule "spread_element"])), ")"])]

def memberExpressionOf (name : String) : Rule := shownAs "member_expression" (rule name)

def callExpressionOf (name : String) : Rule := shownAs "call_expression" (rule name)

private def decoratorRules : List (String × Rule) :=
  [define "decorator" (
    seq ["@",
      oneOf [rule "identifier", memberExpressionOf "decorator_member_expression",
        callExpressionOf "decorator_call_expression",
        shownAs "parenthesized_expression" (rule "decorator_parenthesized_expression")]]),
  define "decorator_member_expression" (
    binding (.named "member") (seq [
      field "object" (oneOf [rule "identifier",
        memberExpressionOf "decorator_member_expression"]),
      ".", field "property" propertyIdentifier])),
  define "decorator_call_expression" (
    binding (.named "call") (seq [
      field "function" (oneOf [rule "identifier",
        memberExpressionOf "decorator_member_expression"]),
      optional (field "type_arguments" (rule "type_arguments")),
      field "arguments" (rule "arguments")]))]

private def memberRules : List (String × Rule) :=
  [define "class_body" (
    seq ["\x7b",
      many (oneOf [
        seq [decorators, rule "method_definition", optional (rule "_semicolon")],
        seq [rule "method_signature",
          oneOf [rule "_function_signature_automatic_semicolon", ","]],
        rule "class_static_block",
        seq [
          oneOf [rule "abstract_method_signature", rule "index_signature",
            rule "method_signature", rule "public_field_definition"],
          oneOf [rule "_semicolon", ","]],
        ";"]),
      "\x7d"]),
  define "formal_parameters" (
    seq ["(",
      optional (seq [commaSeparated1 (rule "_formal_parameter"), optional ","]),
      ")"]),
  define "class_static_block" (seq ["static", field "body" (rule "statement_block")]),
  define "pattern" (preferring (-1) (oneOf [rule "_lhs_expression", rule "rest_pattern"])),
  define "rest_pattern" (bindingRight (.level 0) (seq ["...", rule "_lhs_expression"])),
  define "method_definition" (
    bindingLeft (.level 0) (seq [
      optional (rule "accessibility_modifier"), optional "static",
      optional (rule "override_modifier"), optional "readonly", optional "async",
      optional (oneOf ["get", "set", "*"]), field "name" (rule "_property_name"), optional "?",
      rule "_call_signature", field "body" (rule "statement_block")])),
  define "pair" (
    seq [field "key" (rule "_property_name"), ":", field "value" (rule "expression")]),
  define "pair_pattern" (
    seq [field "key" (rule "_property_name"), ":",
      field "value" (oneOf [rule "pattern", rule "assignment_pattern"])]),
  define "_property_name" (
    oneOf [anyIdentifierAs "property_identifier", rule "private_property_identifier",
      rule "string", rule "number", rule "computed_property_name"]),
  define "computed_property_name" (seq ["[", rule "expression", "]"]),
  define "_reserved_identifier" (
    oneOf (wordsOf ["declare", "namespace", "type", "public", "private", "protected", "override",
      "readonly", "module", "any", "number", "boolean", "string", "symbol", "export", "object",
      "new", "readonly", "get", "set", "async", "static", "export", "let"])),
  define "_semicolon" (oneOf [rule "_automatic_semicolon", ";"])]

def lexemeRules : List (String × Rule) := literalRules ++ decoratorRules ++ memberRules

end RepoSurvey.Script
