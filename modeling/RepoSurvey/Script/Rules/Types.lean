import RepoSurvey.Script.Rules.Lexemes

/-!
# Types

Type expressions, declarations of types, and the other constructs that types bring with them.
-/

namespace RepoSurvey.Script

open Grammar

private def typeName : Rule := field "name" (rule "_type_identifier")

private def optionalAnnotation : Rule := field "type" (optional (rule "type_annotation"))

private def memberModifiers : List Rule :=
  [optional (rule "accessibility_modifier"), optional "static",
    optional (rule "override_modifier"), optional "readonly"]

private def declarationRules : List (String × Rule) :=
  [define "public_field_definition" (
    seq [decorators,
      optional (oneOf [
        seq ["declare", optional (rule "accessibility_modifier")],
        seq [rule "accessibility_modifier", optional "declare"]]),
      oneOf [
        seq [optional "static", optional (rule "override_modifier"), optional "readonly"],
        seq [optional "abstract", optional "readonly"],
        seq [optional "readonly", optional "abstract"],
        optional "accessor"],
      field "name" (rule "_property_name"), optional (oneOf ["?", "!"]), optionalAnnotation,
      optional (rule "_initializer")])]

private def markupStartRule : String × Rule :=
  define "_jsx_start_opening_element" (
    seq ["<",
      optional (seq [
        oneOf [
          field "name" (oneOf [rule "_jsx_identifier", rule "jsx_namespace_name"]),
          seq [
            field "name" (oneOf [rule "identifier",
              memberExpressionOf "nested_identifier"]),
            optionalTypeArguments]],
        many (field "attribute" (rule "_jsx_attribute"))])])

private def signatureRules : List (String × Rule) :=
  [define "_import_identifier" (oneOf [rule "identifier", typeAsIdentifier]),
  define "non_null_expression" (bindingLeft (.named "unary") (seq [rule "expression", "!"])),
  define "method_signature" (
    seq (memberModifiers ++ [optional "async", optional (oneOf ["get", "set", "*"]),
      field "name" (rule "_property_name"), optional "?", rule "_call_signature"])),
  define "abstract_method_signature" (
    seq [optional (rule "accessibility_modifier"), "abstract",
      optional (rule "override_modifier"), optional (oneOf ["get", "set", "*"]),
      field "name" (rule "_property_name"), optional "?", rule "_call_signature"]),
  define "function_signature" (
    seq [optional "async", "function", field "name" (rule "identifier"), rule "_call_signature",
      oneOf [rule "_semicolon", rule "_function_signature_automatic_semicolon"]]),
  define "decorator_parenthesized_expression" (
    seq ["(",
      oneOf [rule "identifier", memberExpressionOf "decorator_member_expression",
        callExpressionOf "decorator_call_expression"],
      ")"])]

private def assertionRules : List (String × Rule) :=
  [define "as_expression" (
    bindingLeft (.named "binary") (seq [rule "expression", "as",
      oneOf ["const", rule "type"]])),
  define "satisfies_expression" (
    bindingLeft (.named "binary") (seq [rule "expression", "satisfies", rule "type"])),
  define "instantiation_expression" (
    binding (.named "instantiation") (seq [rule "expression",
      field "type_arguments" (rule "type_arguments")]))]

private def typeAssertionRule : String × Rule :=
  define "type_assertion" (
    bindingLeft (.named "unary") (seq [rule "type_arguments", rule "expression"]))

private def ambientRules : List (String × Rule) :=
  [define "import_require_clause" (
    seq [rule "identifier", "=", "require", "(", field "source" (rule "string"), ")"]),
  define "extends_clause" (seq ["extends", commaSeparated1 (rule "_extends_clause_single")]),
  define "_extends_clause_single" (
    binding (.named "extends") (seq [field "value" (rule "expression"),
      optionalTypeArguments])),
  define "implements_clause" (seq ["implements", commaSeparated1 (rule "type")]),
  define "ambient_declaration" (
    seq ["declare",
      oneOf [
        rule "declaration",
        seq ["global", rule "statement_block"],
        seq ["module", ".", propertyIdentifier, ":", rule "type", rule "_semicolon"]]]),
  define "abstract_class_declaration" (
    binding (.named "declare") (seq [decorators, "abstract", "class", typeName,
      optionalTypeParameters, optional (rule "class_heritage"),
      field "body" (rule "class_body")])),
  define "module" (seq ["module", rule "_module"]),
  define "internal_module" (seq ["namespace", rule "_module"]),
  define "_module" (
    bindingRight (.level 0) (seq [
      field "name" (oneOf [rule "string", rule "identifier", rule "nested_identifier"]),
      field "body" (optional (rule "statement_block"))])),
  define "import_alias" (
    seq ["import", rule "identifier", "=", oneOf [rule "identifier", rule "nested_identifier"],
      rule "_semicolon"]),
  define "nested_type_identifier" (
    binding (.named "member") (seq [
      field "module" (oneOf [rule "identifier", rule "nested_identifier"]), ".", typeName])),
  define "interface_declaration" (
    binding (.named "declare") (seq ["interface", typeName, optionalTypeParameters,
      optional (rule "extends_type_clause"),
      field "body" (shownAs "interface_body" (rule "object_type"))])),
  define "extends_type_clause" (
    seq ["extends",
      commaSeparated1 (field "type" (oneOf [rule "_type_identifier",
        rule "nested_type_identifier", rule "generic_type"]))]),
  define "enum_declaration" (
    binding (.named "declare") (seq [optional "const", "enum", field "name" (rule "identifier"),
      field "body" (rule "enum_body")])),
  define "enum_body" (
    seq ["\x7b",
      optional (seq [
        commaSeparated1 (oneOf [field "name" (rule "_property_name"), rule "enum_assignment"]),
        optional ","]),
      "\x7d"]),
  define "enum_assignment" (
    seq [field "name" (rule "_property_name"), rule "_initializer"]),
  define "type_alias_declaration" (
    binding (.named "declare") (seq ["type", typeName, optionalTypeParameters, "=",
      field "value" (rule "type"), rule "_semicolon"])),
  define "accessibility_modifier" (oneOf ["public", "private", "protected"]),
  define "override_modifier" "override"]

private def parameterRules : List (String × Rule) :=
  [define "required_parameter" (
    seq [rule "_parameter_name", optionalAnnotation, optional (rule "_initializer")]),
  define "optional_parameter" (
    seq [rule "_parameter_name", "?", optionalAnnotation, optional (rule "_initializer")]),
  define "_parameter_name" (
    seq [decorators, optional (rule "accessibility_modifier"),
      optional (rule "override_modifier"), optional "readonly",
      field "pattern" (oneOf [rule "pattern", rule "this"])]),
  define "omitting_type_annotation" (seq ["-?:", rule "type"]),
  define "adding_type_annotation" (seq ["+?:", rule "type"]),
  define "opting_type_annotation" (seq ["?:", rule "type"]),
  define "type_annotation" (
    seq [":",
      oneOf [rule "type",
        memberExpressionOf "_type_query_member_expression_in_type_annotation",
        callExpressionOf "_type_query_call_expression_in_type_annotation"]]),
  define "_type_query_member_expression_in_type_annotation" (
    seq [
      field "object" (oneOf [rule "import",
        memberExpressionOf "_type_query_member_expression_in_type_annotation",
        callExpressionOf "_type_query_call_expression_in_type_annotation"]),
      ".",
      field "property" (oneOf [rule "private_property_identifier", propertyIdentifier])]),
  define "_type_query_call_expression_in_type_annotation" (
    seq [
      field "function" (oneOf [rule "import",
        memberExpressionOf "_type_query_member_expression_in_type_annotation"]),
      field "arguments" (rule "arguments")]),
  define "asserts" (
    seq ["asserts", oneOf [rule "type_predicate", rule "identifier", rule "this"]]),
  define "asserts_annotation" (seq [seq [":", rule "asserts"]])]

private def compoundTypeRules : List (String × Rule) :=
  [define "type" (
    oneOf [rule "primary_type", rule "function_type", rule "readonly_type",
      rule "constructor_type", rule "infer_type",
      binding (.level (-1))
        (memberExpressionOf "_type_query_member_expression_in_type_annotation"),
      binding (.level (-1))
        (callExpressionOf "_type_query_call_expression_in_type_annotation")]),
  define "tuple_parameter" (
    seq [field "name" (oneOf [rule "identifier", rule "rest_pattern"]),
      field "type" (rule "type_annotation")]),
  define "optional_tuple_parameter" (
    seq [field "name" (rule "identifier"), "?", field "type" (rule "type_annotation")]),
  define "optional_type" (seq [rule "type", "?"]),
  define "rest_type" (seq ["...", rule "type"]),
  define "_tuple_type_member" (
    oneOf [shownAs "required_parameter" (rule "tuple_parameter"),
      shownAs "optional_parameter" (rule "optional_tuple_parameter"), rule "optional_type",
      rule "rest_type", rule "type"]),
  define "constructor_type" (
    bindingLeft (.level 0) (seq [optional "abstract", "new", optionalTypeParameters,
      field "parameters" (rule "formal_parameters"), "=>", field "type" (rule "type")])),
  define "primary_type" (
    oneOf [rule "parenthesized_type", rule "predefined_type", rule "_type_identifier",
      rule "nested_type_identifier", rule "generic_type", rule "object_type", rule "array_type",
      rule "tuple_type", rule "flow_maybe_type", rule "type_query", rule "index_type_query",
      shownAs "this_type" (rule "this"), rule "existential_type", rule "literal_type",
      rule "lookup_type", rule "conditional_type", rule "template_literal_type",
      rule "intersection_type", rule "union_type", "const"]),
  define "template_type" (
    seq ["$\x7b", oneOf [rule "primary_type", rule "infer_type"], "\x7d"]),
  define "template_literal_type" (
    seq ["`",
      many (oneOf [shownAs "string_fragment" (rule "_template_chars"), rule "template_type"]),
      "`"]),
  define "infer_type" (
    bindingRight (.level 0) (seq ["infer", rule "_type_identifier",
      optional (seq ["extends", rule "type"])])),
  define "conditional_type" (
    bindingRight (.level 0) (seq [field "left" (rule "type"), "extends",
      field "right" (rule "type"), "?", field "consequence" (rule "type"), ":",
      field "alternative" (rule "type")])),
  define "generic_type" (
    binding (.named "call") (seq [
      field "name" (oneOf [rule "_type_identifier", rule "nested_type_identifier"]),
      field "type_arguments" (rule "type_arguments")])),
  define "type_predicate" (
    seq [
      field "name" (oneOf [rule "identifier", rule "this",
        shownAs "identifier" (rule "predefined_type")]),
      "is", field "type" (rule "type")]),
  define "type_predicate_annotation" (seq [seq [":", rule "type_predicate"]])]

private def queryObject : Rule :=
  oneOf [rule "identifier", rule "this",
    shownAs "subscript_expression" (rule "_type_query_subscript_expression"),
    memberExpressionOf "_type_query_member_expression",
    callExpressionOf "_type_query_call_expression"]

private def queryFunction : Rule :=
  oneOf [rule "import", rule "identifier",
    memberExpressionOf "_type_query_member_expression",
    shownAs "subscript_expression" (rule "_type_query_subscript_expression")]

private def queryRules : List (String × Rule) :=
  [define "_type_query_member_expression" (
    seq [field "object" queryObject, oneOf [".", "?."],
      field "property" (oneOf [rule "private_property_identifier", propertyIdentifier])]),
  define "_type_query_subscript_expression" (
    seq [field "object" queryObject, optional "?.", "[",
      field "index" (oneOf [rule "predefined_type", rule "string", rule "number"]), "]"]),
  define "_type_query_call_expression" (
    seq [field "function" queryFunction, field "arguments" (rule "arguments")]),
  define "_type_query_instantiation_expression" (
    seq [field "function" queryFunction, field "type_arguments" (rule "type_arguments")]),
  define "type_query" (
    bindingRight (.level 0) (seq ["typeof",
      oneOf [shownAs "subscript_expression" (rule "_type_query_subscript_expression"),
        memberExpressionOf "_type_query_member_expression",
        callExpressionOf "_type_query_call_expression",
        shownAs "instantiation_expression" (rule "_type_query_instantiation_expression"),
        rule "identifier", rule "this"]]))]

private def plainTypeRules : List (String × Rule) :=
  [define "index_type_query" (seq ["keyof", rule "primary_type"]),
  define "lookup_type" (seq [rule "primary_type", "[", rule "type", "]"]),
  define "mapped_type_clause" (
    seq [typeName, "in", field "type" (rule "type"),
      optional (seq ["as", field "alias" (rule "type")])]),
  define "literal_type" (
    oneOf [shownAs "unary_expression" (rule "_number"), rule "number", rule "string",
      rule "true", rule "false", rule "null", rule "undefined"]),
  define "_number" (
    bindingLeft (.level 1) (seq [field "operator" (oneOf ["-", "+"]),
      field "argument" (rule "number")])),
  define "existential_type" "*",
  define "flow_maybe_type" (bindingRight (.level 0) (seq ["?", rule "primary_type"])),
  define "parenthesized_type" (seq ["(", rule "type", ")"]),
  define "predefined_type" (
    oneOf ["any", "number", "boolean", "string", "symbol",
      shownAsToken "unique symbol" (seq ["unique", "symbol"]), "void", "unknown", "string",
      "never", "object"]),
  define "type_arguments" (
    seq ["<", commaSeparated1 (rule "type"), optional ",", ">"]),
  define "object_type" (
    seq [oneOf ["\x7b", "\x7b|"],
      optional (seq [
        optional (oneOf [",", ";"]),
        separated1 (oneOf [",", rule "_semicolon"])
          (oneOf [rule "export_statement", rule "property_signature", rule "call_signature",
            rule "construct_signature", rule "index_signature", rule "method_signature"]),
        optional (oneOf [",", rule "_semicolon"])]),
      oneOf ["\x7d", "|\x7d"]]),
  define "call_signature" (rule "_call_signature"),
  define "property_signature" (
    seq (memberModifiers ++
      [field "name" (rule "_property_name"), optional "?", optionalAnnotation])),
  define "type_parameters" (
    seq ["<", commaSeparated1 (rule "type_parameter"), optional ",", ">"]),
  define "type_parameter" (
    seq [optional "const", typeName, field "constraint" (optional (rule "constraint")),
      field "value" (optional (rule "default_type"))]),
  define "default_type" (seq ["=", rule "type"]),
  define "constraint" (seq [oneOf ["extends", ":"], rule "type"]),
  define "construct_signature" (
    seq [optional "abstract", "new", optionalTypeParameters,
      field "parameters" (rule "formal_parameters"), optionalAnnotation]),
  define "index_signature" (
    seq [
      optional (seq [field "sign" (optional (oneOf ["+", "-"])), "readonly"]),
      "[",
      oneOf [
        seq [field "name" (oneOf [rule "identifier", reservedAsIdentifier]), ":",
          field "index_type" (rule "type")],
        rule "mapped_type_clause"],
      "]",
      field "type" (oneOf [rule "type_annotation", rule "omitting_type_annotation",
        rule "adding_type_annotation", rule "opting_type_annotation"])]),
  define "array_type" (seq [rule "primary_type", "[", "]"]),
  define "tuple_type" (
    seq ["[", commaSeparated (rule "_tuple_type_member"), optional ",", "]"]),
  define "readonly_type" (seq ["readonly", rule "type"]),
  define "union_type" (
    bindingLeft (.level 0) (seq [optional (rule "type"), "|", rule "type"])),
  define "intersection_type" (
    bindingLeft (.level 0) (seq [optional (rule "type"), "&", rule "type"])),
  define "function_type" (
    bindingLeft (.level 0) (seq [optionalTypeParameters,
      field "parameters" (rule "formal_parameters"), "=>",
      field "return_type" (oneOf [rule "type", rule "asserts", rule "type_predicate"])])),
  define "_type_identifier" (shownAs "type_identifier" (rule "identifier"))]

def typeRules (dialect : Dialect) : List (String × Rule) :=
  declarationRules ++
    (match dialect with
      | .tsx => [markupStartRule]
      | .typescript => []) ++
    signatureRules ++
    (match dialect with
      | .tsx => []
      | .typescript => [typeAssertionRule]) ++
    assertionRules ++ ambientRules ++ parameterRules ++ compoundTypeRules ++ queryRules ++
    plainTypeRules

end RepoSurvey.Script
