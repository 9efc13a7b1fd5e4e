import RepoSurvey.Script.Rules.Statements

/-!
# Expressions

Primary expressions, objects and arrays with their patterns, markup inside scripts, classes,
functions, calls and operators.
-/

namespace RepoSurvey.Script

open Grammar

/-- A word that is reserved only in some places, used as a name. -/
def reservedAsIdentifier : Rule := shownAs "identifier" (rule "_reserved_identifier")

/-- An identifier or a word reserved in some places, shown as `name`. -/
def anyIdentifierAs (name : String) : Rule :=
  shownAs name (oneOf [rule "identifier", rule "_reserved_identifier"])

def propertyIdentifier : Rule := shownAs "property_identifier" (rule "identifier")

def optionalTypeArguments : Rule := field "type_arguments" (optional (rule "type_arguments"))

def optionalTypeParameters : Rule := field "type_parameters" (optional (rule "type_parameters"))

def decorators : Rule := many (field "decorator" (rule "decorator"))

private def plainExpressions : List Rule :=
  [rule "assignment_expression", rule "augmented_assignment_expression", rule "await_expression",
    rule "unary_expression", rule "binary_expression", rule "ternary_expression",
    rule "update_expression", rule "new_expression", rule "yield_expression"]

/-- Whether markup may stand for an expression is what tells the dialects apart. -/
private def expressions : Dialect → Rule
  | .tsx =>
      oneOf ([rule "as_expression", rule "satisfies_expression", rule "instantiation_expression",
        rule "internal_module", rule "primary_expression", rule "_jsx_element"] ++ plainExpressions)
  | .typescript =>
      oneOf ([rule "as_expression", rule "satisfies_expression", rule "instantiation_expression",
        rule "internal_module", rule "type_assertion", rule "primary_expression"] ++
        plainExpressions)

private def primaryRules (dialect : Dialect) : List (String × Rule) :=
  [define "_expressions" (oneOf [rule "expression", rule "sequence_expression"]),
  define "expression" (expressions dialect),
  define "primary_expression" (
    oneOf [rule "subscript_expression", rule "member_expression",
      rule "parenthesized_expression", rule "_identifier", reservedAsIdentifier, rule "this",
      rule "super", rule "number", rule "string", rule "template_string", rule "regex",
      rule "true", rule "false", rule "null", rule "object", rule "array",
      rule "function_expression", rule "arrow_function", rule "generator_function", rule "class",
      rule "meta_property", rule "call_expression", rule "non_null_expression"]),
  define "yield_expression" (
    bindingRight (.level 0) (seq ["yield",
      oneOf [seq ["*", rule "expression"], optional (rule "expression")]])),
  define "object" (
    binding (.named "object") (seq ["\x7b",
      commaSeparated (optional (oneOf [rule "pair", rule "spread_element",
        rule "method_definition", anyIdentifierAs "shorthand_property_identifier"])),
      "\x7d"])),
  define "object_pattern" (
    binding (.named "object") (seq ["\x7b",
      commaSeparated (optional (oneOf [rule "pair_pattern", rule "rest_pattern",
        rule "object_assignment_pattern",
        anyIdentifierAs "shorthand_property_identifier_pattern"])),
      "\x7d"])),
  define "assignment_pattern" (
    seq [field "left" (rule "pattern"), "=", field "right" (rule "expression")]),
  define "object_assignment_pattern" (
    seq [
      field "left" (oneOf [
        shownAs "shorthand_property_identifier_pattern"
          (oneOf [rule "_reserved_identifier", rule "identifier"]),
        rule "_destructuring_pattern"]),
      "=", field "right" (rule "expression")]),
  define "array" (
    seq ["[", commaSeparated (optional (oneOf [rule "expression", rule "spread_element"])), "]"]),
  define "array_pattern" (
    seq ["[", commaSeparated (optional (oneOf [rule "pattern", rule "assignment_pattern"])),
      "]"])]

private def nestedIdentifierRule : String × Rule :=
  define "nested_identifier" (
    binding (.named "member") (seq [
      field "object" (oneOf [rule "identifier",
        shownAs "member_expression" (rule "nested_identifier")]),
      ".", field "property" propertyIdentifier]))

private def entityPattern : Pattern :=
  .seq [.char '&',
    .choice [
      .seq [.char '#',
        .choice [
          .seq [.oneOf "xX", .times (.chars .hexDigits) 1 5],
          .times (.chars .digits) 1 4]],
      .times (.chars .letters) 1 29],
    .char ';']

/-- Quoted text in markup: no quote, and no ampersand that could start an entity. -/
private def markupText (quote : Char) : Rule :=
  immediate (binding (.level 1) (.pattern (.many1 (.either
    (.noneOf (.single quote ++ .single '&'))
    (.seq [.char '&', .noneOf (.single '#' ++ .letters)])))))

private def markupString (quote : String) (fragment : String) : Rule :=
  seq [quote,
    many (oneOf [shownAs "string_fragment" (rule fragment), rule "html_character_reference"]),
    quote]

private def hyphenatedPattern : Pattern :=
  .seq [.chars (.letters ++ .ofString "_$"), .many (.chars (.letters ++ .digits ++ .ofString "_$")),
    .char '-', .many (.chars (.letters ++ .digits ++ .ofString "_$-"))]

private def markupRules : List (String × Rule) :=
  [define "_jsx_element" (oneOf [rule "jsx_element", rule "jsx_self_closing_element"]),
  define "jsx_element" (
    seq [field "open_tag" (rule "jsx_opening_element"), many (rule "_jsx_child"),
      field "close_tag" (rule "jsx_closing_element")]),
  define "html_character_reference" (.pattern entityPattern),
  define "jsx_expression" (
    seq ["\x7b",
      optional (oneOf [rule "expression", rule "sequence_expression", rule "spread_element"]),
      "\x7d"]),
  define "_jsx_child" (
    oneOf [rule "jsx_text", rule "html_character_reference", rule "_jsx_element",
      rule "jsx_expression"]),
  define "jsx_opening_element" (
    preferring (-1) (seq [rule "_jsx_start_opening_element", ">"])),
  define "jsx_identifier" (.pattern hyphenatedPattern),
  define "_jsx_identifier" (
    oneOf [shownAs "identifier" (rule "jsx_identifier"), rule "identifier"]),
  nestedIdentifierRule,
  define "jsx_namespace_name" (seq [rule "_jsx_identifier", ":", rule "_jsx_identifier"]),
  define "_jsx_element_name" (
    oneOf [rule "_jsx_identifier", shownAs "member_expression" (rule "nested_identifier"),
      rule "jsx_namespace_name"]),
  define "jsx_closing_element" (
    seq ["</", optional (field "name" (rule "_jsx_element_name")), ">"]),
  define "jsx_self_closing_element" (
    preferring (-1) (seq [rule "_jsx_start_opening_element", "/>"])),
  define "_jsx_attribute" (oneOf [rule "jsx_attribute", rule "jsx_expression"]),
  define "_jsx_attribute_name" (
    oneOf [shownAs "property_identifier" (rule "_jsx_identifier"), rule "jsx_namespace_name"]),
  define "jsx_attribute" (
    seq [rule "_jsx_attribute_name", optional (seq ["=", rule "_jsx_attribute_value"])]),
  define "_jsx_string" (
    oneOf [markupString "\"" "unescaped_double_jsx_string_fragment",
      markupString "'" "unescaped_single_jsx_string_fragment"]),
  define "unescaped_double_jsx_string_fragment" (markupText '"'),
  define "unescaped_single_jsx_string_fragment" (markupText '\''),
  define "_jsx_attribute_value" (
    oneOf [shownAs "string" (rule "_jsx_string"), rule "jsx_expression", rule "_jsx_element"])]

private def functionParts (star : List Rule) (name : Rule) : List Rule :=
  [optional "async", "function"] ++ star ++
    [field "name" name, rule "_call_signature", field "body" (rule "statement_block")]

private def functionRules : List (String × Rule) :=
  [define "class" (
    binding (.named "literal") (seq [decorators, "class",
      field "name" (optional (rule "_type_identifier")), optionalTypeParameters,
      optional (rule "class_heritage"), field "body" (rule "class_body")])),
  define "class_declaration" (
    bindingLeft (.named "declare") (seq [decorators, "class",
      field "name" (rule "_type_identifier"), optionalTypeParameters,
      optional (rule "class_heritage"), field "body" (rule "class_body"),
      optional (rule "_automatic_semicolon")])),
  define "class_heritage" (
    oneOf [
      seq [rule "extends_clause", optional (rule "implements_clause")],
      rule "implements_clause"]),
  define "function_expression" (
    binding (.named "literal") (seq (functionParts [] (optional (rule "identifier"))))),
  define "function_declaration" (
    bindingRight (.named "declare") (seq (functionParts [] (rule "identifier") ++
      [optional (rule "_automatic_semicolon")]))),
  define "generator_function" (
    binding (.named "literal") (seq (functionParts ["*"] (optional (rule "identifier"))))),
  define "generator_function_declaration" (
    bindingRight (.named "declare") (seq (functionParts ["*"] (rule "identifier") ++
      [optional (rule "_automatic_semicolon")]))),
  define "arrow_function" (
    seq [optional "async",
      oneOf [
        field "parameter" (oneOf [reservedAsIdentifier, rule "identifier"]),
        rule "_call_signature"],
      "=>",
      field "body" (oneOf [rule "expression", rule "statement_block"])]),
  define "_call_signature" (
    seq [optionalTypeParameters, field "parameters" (rule "formal_parameters"),
      field "return_type" (optional (oneOf [rule "type_annotation", rule "asserts_annotation",
        rule "type_predicate_annotation"]))]),
  define "_formal_parameter" (oneOf [rule "required_parameter", rule "optional_parameter"]),
  define "optional_chain" "?.",
  define "call_expression" (
    oneOf [
      binding (.named "call") (seq [
        field "function" (oneOf [rule "expression", rule "import"]),
        optionalTypeArguments,
        field "arguments" (rule "arguments")]),
      binding (.named "template_call") (seq [
        field "function" (oneOf [rule "primary_expression", rule "new_expression"]),
        field "arguments" (rule "template_string")]),
      binding (.named "member") (seq [
        field "function" (rule "primary_expression"), "?.",
        optionalTypeArguments,
        field "arguments" (rule "arguments")])]),
  define "new_expression" (
    bindingRight (.named "new") (seq ["new",
      field "constructor" (rule "primary_expression"),
      optionalTypeArguments,
      field "arguments" (optional (rule "arguments"))])),
  define "await_expression" (binding (.named "unary_void") (seq ["await", rule "expression"])),
  define "member_expression" (
    binding (.named "member") (seq [
      field "object" (oneOf [rule "expression", rule "primary_expression", rule "import"]),
      oneOf [".", field "optional_chain" (rule "optional_chain")],
      field "property" (oneOf [rule "private_property_identifier", propertyIdentifier])])),
  define "subscript_expression" (
    bindingRight (.named "member") (seq [
      field "object" (oneOf [rule "expression", rule "primary_expression"]),
      optional (field "optional_chain" (rule "optional_chain")),
      "[", field "index" (rule "_expressions"), "]"]))]

private def binaryOperators : List (String × String) :=
  [("&&", "logical_and"), ("||", "logical_or"), (">>", "binary_shift"), (">>>", "binary_shift"),
    ("<<", "binary_shift"), ("&", "bitwise_and"), ("^", "bitwise_xor"), ("|", "bitwise_or"),
    ("+", "binary_plus"), ("-", "binary_plus"), ("*", "binary_times"), ("/", "binary_times"),
    ("%", "binary_times"), ("**", "binary_exp"), ("<", "binary_relation"),
    ("<=", "binary_relation"), ("==", "binary_equality"), ("===", "binary_equality"),
    ("!=", "binary_equality"), ("!==", "binary_equality"), (">=", "binary_relation"),
    (">", "binary_relation"), ("??", "ternary"), ("instanceof", "binary_relation"),
    ("in", "binary_relation")]

private def binaryRule : String × String → Rule := fun (operator, precedence) =>
  let left := if operator == "in" then
      oneOf [rule "expression", rule "private_property_identifier"]
    else rule "expression"
  let parts := seq [field "left" left, field "operator" (.text operator),
    field "right" (rule "expression")]
  if operator == "**" then bindingRight (.named precedence) parts
  else bindingLeft (.named precedence) parts

private def operatorRules : List (String × Rule) :=
  [define "_lhs_expression" (
    oneOf [rule "member_expression", rule "subscript_expression", rule "_identifier",
      reservedAsIdentifier, rule "_destructuring_pattern", rule "non_null_expression"]),
  define "assignment_expression" (
    bindingRight (.named "assign") (seq [optional "using",
      field "left" (oneOf [rule "parenthesized_expression", rule "_lhs_expression"]),
      "=", field "right" (rule "expression")])),
  define "_augmented_assignment_lhs" (
    oneOf [rule "member_expression", rule "subscript_expression", reservedAsIdentifier,
      rule "identifier", rule "parenthesized_expression", rule "non_null_expression"]),
  define "augmented_assignment_expression" (
    bindingRight (.named "assign") (seq [
      field "left" (rule "_augmented_assignment_lhs"),
      field "operator" (oneOf (wordsOf ["+=", "-=", "*=", "/=", "%=", "^=", "&=", "|=", ">>=",
        ">>>=", "<<=", "**=", "&&=", "||=", "??="])),
      field "right" (rule "expression")])),
  define "_initializer" (seq ["=", field "value" (rule "expression")]),
  define "_destructuring_pattern" (oneOf [rule "object_pattern", rule "array_pattern"]),
  define "spread_element" (seq ["...", rule "expression"]),
  define "ternary_expression" (
    bindingRight (.named "ternary") (seq [field "condition" (rule "expression"),
      shownAsToken "?" (rule "_ternary_qmark"),
      field "consequence" (rule "expression"), ":", field "alternative" (rule "expression")])),
  define "binary_expression" (oneOf (binaryOperators.map binaryRule)),
  define "unary_expression" (
    bindingLeft (.named "unary_void") (seq [
      field "operator" (oneOf (wordsOf ["!", "~", "-", "+", "typeof", "void", "delete"])),
      field "argument" (rule "expression")])),
  define "update_expression" (
    bindingLeft (.level 0) (oneOf [
      seq [field "argument" (rule "expression"), field "operator" (oneOf ["++", "--"])],
      seq [field "operator" (oneOf ["++", "--"]), field "argument" (rule "expression")]])),
  define "sequence_expression" (bindingRight (.level 0) (commaSeparated1 (rule "expression")))]

def expressionRules (dialect : Dialect) : List (String × Rule) :=
  primaryRules dialect ++
    (match dialect with
      | .tsx => markupRules
      | .typescript => [nestedIdentifierRule]) ++
    functionRules ++ operatorRules

end RepoSurvey.Script
