import RepoSurvey.Grammar.Compile
import RepoSurvey.Script.Rules.Types

/-!
# The grammar of scripts

The rules of both dialects together with what holds for all of them: comments and spaces between
tokens, the ranking of operators, and which constructs may compete until the input decides.
-/

namespace RepoSurvey.Script

open Grammar

private def ranked (names : List String) : List Rank := names.map .named

private def symbols (names : List String) : List Rank := names.map .symbol

private def operatorRanking : List Rank :=
  ranked ["member", "template_call", "call"] ++ symbols ["update_expression"] ++
    ranked ["unary_void", "binary_exp", "binary_times", "binary_plus", "binary_shift",
      "binary_compare", "binary_relation", "binary_equality", "bitwise_and", "bitwise_xor",
      "bitwise_or", "logical_and", "logical_or", "ternary"] ++
    symbols ["sequence_expression", "arrow_function"]

private def expressionRankings : List (List Rank) :=
  [operatorRanking,
    ranked ["assign"] ++ symbols ["primary_expression"],
    ranked ["member", "template_call", "new", "call"] ++ symbols ["expression"],
    ranked ["declare", "literal"],
    symbols ["primary_expression", "statement_block"] ++ ranked ["object"],
    symbols ["meta_property", "import"],
    symbols ["import_statement", "import"],
    symbols ["export_statement", "primary_expression"],
    symbols ["lexical_declaration", "primary_expression"]]

private def typeRankings : List (List Rank) :=
  [ranked ["call", "instantiation", "unary", "binary"] ++
      symbols ["await_expression", "arrow_function"],
    ranked ["extends", "instantiation"],
    symbols ["intersection_type", "union_type", "conditional_type", "function_type"] ++
      ranked ["binary"] ++ symbols ["type_predicate", "readonly_type"],
    symbols ["mapped_type_clause", "primary_expression"],
    symbols ["accessibility_modifier", "primary_expression"],
    ranked ["unary_void"] ++ symbols ["expression"],
    symbols ["extends_clause", "primary_expression"],
    ranked ["unary", "assign"],
    ranked ["declare"] ++ symbols ["expression"],
    symbols ["predefined_type", "unary_expression"],
    symbols ["type", "flow_maybe_type"],
    symbols ["tuple_type", "array_type", "pattern", "type"],
    symbols ["readonly_type", "pattern"],
    symbols ["readonly_type", "primary_expression"],
    symbols ["type_query", "subscript_expression", "expression"],
    symbols ["type_query", "_type_query_subscript_expression"],
    symbols ["nested_type_identifier", "generic_type", "primary_type", "lookup_type",
      "index_type_query", "type"],
    symbols ["as_expression", "satisfies_expression", "primary_type"],
    symbols ["_type_query_member_expression", "member_expression"],
    symbols ["_type_query_member_expression", "primary_expression"],
    symbols ["_type_query_subscript_expression", "subscript_expression"],
    symbols ["_type_query_subscript_expression", "primary_expression"],
    symbols ["_type_query_call_expression", "primary_expression"],
    symbols ["_type_query_instantiation_expression", "primary_expression"],
    symbols ["type_query", "primary_expression"],
    symbols ["override_modifier", "primary_expression"],
    symbols ["decorator_call_expression", "decorator"],
    symbols ["literal_type", "pattern"],
    symbols ["predefined_type", "pattern"],
    symbols ["call_expression", "_type_query_call_expression"],
    symbols ["call_expression", "_type_query_call_expression_in_type_annotation"],
    symbols ["new_expression", "primary_expression"],
    symbols ["meta_property", "primary_expression"],
    symbols ["construct_signature", "_property_name"]]

private def expressionConflicts : List (List String) :=
  [["primary_expression", "_property_name"],
    ["primary_expression", "_property_name", "arrow_function"],
    ["primary_expression", "arrow_function"],
    ["primary_expression", "method_definition"],
    ["primary_expression", "rest_pattern"],
    ["primary_expression", "pattern"],
    ["primary_expression", "_for_header"],
    ["variable_declarator", "_for_header"],
    ["array", "array_pattern"],
    ["object", "object_pattern"],
    ["assignment_expression", "pattern"],
    ["assignment_expression", "object_assignment_pattern"],
    ["labeled_statement", "_property_name"],
    ["computed_property_name", "array"],
    ["binary_expression", "_initializer"],
    ["class_static_block", "_property_name"]]

private def typeConflicts : List (List String) :=
  [["call_expression", "instantiation_expression", "binary_expression"],
    ["call_expression", "instantiation_expression", "binary_expression", "unary_expression"],
    ["call_expression", "instantiation_expression", "binary_expression", "update_expression"],
    ["call_expression", "instantiation_expression", "binary_expression", "await_expression"],
    ["class"],
    ["nested_identifier", "nested_type_identifier", "primary_expression"],
    ["nested_identifier", "nested_type_identifier"],
    ["_call_signature", "function_type"],
    ["_call_signature", "constructor_type"],
    ["primary_expression", "_parameter_name"],
    ["primary_expression", "_parameter_name", "primary_type"],
    ["primary_expression", "literal_type"],
    ["primary_expression", "literal_type", "rest_pattern"],
    ["primary_expression", "predefined_type", "rest_pattern"],
    ["primary_expression", "primary_type"],
    ["primary_expression", "generic_type"],
    ["primary_expression", "predefined_type"],
    ["primary_expression", "pattern", "primary_type"],
    ["primary_expression", "pattern", "predefined_type"],
    ["_parameter_name", "primary_type"],
    ["_parameter_name", "pattern"],
    ["optional_tuple_parameter", "primary_type"],
    ["rest_pattern", "primary_type"],
    ["object", "object_type"],
    ["object", "object_pattern", "object_type"],
    ["object", "object_pattern", "_property_name"],
    ["object_pattern", "object_type"],
    ["array", "tuple_type"],
    ["array", "array_pattern", "tuple_type"],
    ["array_pattern", "tuple_type"],
    ["template_literal_type", "template_string"]]

private def dialectConflicts : Dialect → List (List String)
  | .typescript => [["primary_type", "type_parameter"]]
  | .tsx =>
      [["jsx_opening_element", "type_parameter"], ["jsx_namespace_name", "primary_type"]]

private def alwaysInlined : List String :=
  ["_expressions", "_semicolon", "_identifier", "_reserved_identifier", "_lhs_expression",
    "_type_identifier"]

private def markupInlined : List String :=
  ["_jsx_attribute", "_jsx_element_name", "_jsx_child", "_jsx_element", "_jsx_attribute_name",
    "_jsx_attribute_value", "_jsx_identifier", "_jsx_start_opening_element"]

/-- The tokens that the scanner finds, in the order of `ScannedKind`. -/
private def scannedTokens : List Rule :=
  [rule "_automatic_semicolon", rule "_template_chars", rule "_ternary_qmark",
    rule "html_comment", "||", rule "escape_sequence", rule "regex_pattern", rule "jsx_text",
    rule "_function_signature_automatic_semicolon", rule "__error_recovery"]

def grammar (dialect : Dialect) : Grammar :=
  { rules := statementRules ++ expressionRules dialect ++ lexemeRules ++ typeRules dialect
    extras := [rule "comment", rule "html_comment", .pattern (.chars spaces)]
    conflicts := expressionConflicts ++ typeConflicts ++ dialectConflicts dialect
    rankings := expressionRankings ++ typeRankings
    externals := scannedTokens
    inlined := alwaysInlined ++ markupInlined
    groups := ["statement", "declaration", "expression", "primary_expression", "pattern", "type",
      "primary_type"]
    word := some "identifier" }

end RepoSurvey.Script
