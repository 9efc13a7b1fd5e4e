import RepoSurvey.Script.Dialect

/-!
# Modules and statements

The rules for whole scripts, what they import and export, and statements.
-/

namespace RepoSurvey.Script

open Grammar

/-- Either the word `identifier` or a pattern that takes a value apart. -/
def bindable : Rule := oneOf [rule "identifier", rule "_destructuring_pattern"]

def typeOrTypeof : Rule := optional (oneOf ["type", "typeof"])

def typeAsIdentifier : Rule := shownAs "identifier" "type"

def label : Rule := shownAs "statement_identifier" (rule "identifier")

private def moduleRules : List (String × Rule) :=
  [define "program" (seq [optional (rule "hash_bang_line"), many (rule "statement")]),
  define "hash_bang_line" (.pattern (.seq [.text "#!", .many (.noneOf (.ofString "\n"))])),
  define "export_statement" (
    oneOf [
      seq ["export",
        oneOf [
          seq ["*", rule "_from_clause"],
          seq [rule "namespace_export", rule "_from_clause"],
          seq [rule "export_clause", rule "_from_clause"],
          rule "export_clause"],
        rule "_semicolon"],
      seq [many (field "decorator" (rule "decorator")), "export",
        oneOf [
          field "declaration" (rule "declaration"),
          seq ["default",
            oneOf [
              field "declaration" (rule "declaration"),
              seq [field "value" (rule "expression"), rule "_semicolon"]]]]],
      seq ["export", "type", rule "export_clause", optional (rule "_from_clause"),
        rule "_semicolon"],
      seq ["export", "import", rule "import_alias"],
      seq ["export", "=", rule "expression", rule "_semicolon"],
      seq ["export", "as", "namespace", rule "identifier", rule "_semicolon"]]),
  define "namespace_export" (seq ["*", "as", rule "_module_export_name"]),
  define "export_clause" (
    seq ["\x7b", commaSeparated (rule "export_specifier"), optional ",", "\x7d"]),
  define "export_specifier" (
    seq [typeOrTypeof,
      seq [field "name" (rule "_module_export_name"),
        optional (seq ["as", field "alias" (rule "_module_export_name")])]]),
  define "_module_export_name" (oneOf [rule "identifier", rule "string"]),
  define "declaration" (
    oneOf [rule "function_declaration", rule "generator_function_declaration",
      rule "class_declaration", rule "lexical_declaration", rule "variable_declaration",
      rule "function_signature", rule "abstract_class_declaration", rule "module",
      binding (.named "declare") (rule "internal_module"), rule "type_alias_declaration",
      rule "enum_declaration", rule "interface_declaration", rule "import_alias",
      rule "ambient_declaration"]),
  define "import" (token "import"),
  define "import_statement" (
    seq ["import", typeOrTypeof,
      oneOf [seq [rule "import_clause", rule "_from_clause"], rule "import_require_clause",
        field "source" (rule "string")],
      optional (rule "import_attribute"), rule "_semicolon"]),
  define "import_clause" (
    oneOf [rule "namespace_import", rule "named_imports",
      seq [rule "_import_identifier",
        optional (seq [",", oneOf [rule "namespace_import", rule "named_imports"]])]]),
  define "_from_clause" (seq ["from", field "source" (rule "string")]),
  define "namespace_import" (seq ["*", "as", rule "identifier"]),
  define "named_imports" (
    seq ["\x7b", commaSeparated (rule "import_specifier"), optional ",", "\x7d"]),
  define "import_specifier" (
    seq [typeOrTypeof,
      oneOf [
        field "name" (rule "_import_identifier"),
        seq [field "name" (oneOf [rule "_module_export_name", typeAsIdentifier]), "as",
          field "alias" (rule "_import_identifier")]]]),
  define "import_attribute" (seq ["with", rule "object"])]

private def loopRules : List (String × Rule) :=
  [define "for_statement" (
    seq ["for", "(",
      oneOf [
        field "initializer" (oneOf [rule "lexical_declaration", rule "variable_declaration"]),
        seq [field "initializer" (rule "_expressions"), ";"],
        field "initializer" (rule "empty_statement")],
      field "condition" (oneOf [seq [rule "_expressions", ";"], rule "empty_statement"]),
      field "increment" (optional (rule "_expressions")), ")",
      field "body" (rule "statement")]),
  define "for_in_statement" (
    seq ["for", optional "await", rule "_for_header", field "body" (rule "statement")]),
  define "_for_header" (
    seq ["(",
      oneOf [
        field "left" (oneOf [rule "_lhs_expression", rule "parenthesized_expression"]),
        seq [field "kind" "var", field "left" bindable, optional (rule "_initializer")],
        seq [field "kind" (oneOf ["let", "const"]), field "left" bindable,
          optional (rule "_automatic_semicolon")]],
      field "operator" (oneOf ["in", "of"]), field "right" (rule "_expressions"), ")"]),
  define "while_statement" (
    seq ["while", field "condition" (rule "parenthesized_expression"),
      field "body" (rule "statement")]),
  define "do_statement" (
    bindingRight (.level 0) (seq ["do", field "body" (rule "statement"), "while",
      field "condition" (rule "parenthesized_expression"), optional (rule "_semicolon")]))]

private def jumpRules : List (String × Rule) :=
  [define "try_statement" (
    seq ["try", field "body" (rule "statement_block"),
      optional (field "handler" (rule "catch_clause")),
      optional (field "finalizer" (rule "finally_clause"))]),
  define "with_statement" (
    seq ["with", field "object" (rule "parenthesized_expression"),
      field "body" (rule "statement")]),
  define "break_statement" (
    seq ["break", field "label" (optional label), rule "_semicolon"]),
  define "continue_statement" (
    seq ["continue", field "label" (optional label), rule "_semicolon"]),
  define "debugger_statement" (seq ["debugger", rule "_semicolon"]),
  define "return_statement" (seq ["return", optional (rule "_expressions"), rule "_semicolon"]),
  define "throw_statement" (seq ["throw", rule "_expressions", rule "_semicolon"]),
  define "empty_statement" ";",
  define "labeled_statement" (
    preferring (-1) (seq [
      field "label" (shownAs "statement_identifier"
        (oneOf [rule "identifier", rule "_reserved_identifier"])),
      ":", field "body" (rule "statement")])),
  define "switch_body" (
    seq ["\x7b", many (oneOf [rule "switch_case", rule "switch_default"]), "\x7d"]),
  define "switch_case" (
    seq ["case", field "value" (rule "_expressions"), ":",
      field "body" (many (rule "statement"))]),
  define "switch_default" (seq ["default", ":", field "body" (many (rule "statement"))]),
  define "catch_clause" (
    seq ["catch",
      optional (seq ["(", field "parameter" bindable,
        optional (field "type" (rule "type_annotation")), ")"]),
      field "body" (rule "statement_block")]),
  define "finally_clause" (seq ["finally", field "body" (rule "statement_block")]),
  define "parenthesized_expression" (
    seq ["(",
      oneOf [
        seq [rule "expression", field "type" (optional (rule "type_annotation"))],
        rule "sequence_expression"],
      ")"])]

private def plainStatementRules : List (String × Rule) :=
  [define "statement" (
    oneOf [rule "export_statement", rule "import_statement", rule "debugger_statement",
      rule "expression_statement", rule "declaration", rule "statement_block",
      rule "if_statement", rule "switch_statement", rule "for_statement",
      rule "for_in_statement", rule "while_statement", rule "do_statement",
      rule "try_statement", rule "with_statement", rule "break_statement",
      rule "continue_statement", rule "return_statement", rule "throw_statement",
      rule "empty_statement", rule "labeled_statement"]),
  define "expression_statement" (seq [rule "_expressions", rule "_semicolon"]),
  define "variable_declaration" (
    seq ["var", commaSeparated1 (rule "variable_declarator"), rule "_semicolon"]),
  define "lexical_declaration" (
    seq [field "kind" (oneOf ["let", "const"]), commaSeparated1 (rule "variable_declarator"),
      rule "_semicolon"]),
  define "variable_declarator" (
    oneOf [
      seq [field "name" bindable, field "type" (optional (rule "type_annotation")),
        optional (rule "_initializer")],
      binding (.named "declare") (seq [field "name" (rule "identifier"), "!",
        field "type" (rule "type_annotation")])]),
  define "statement_block" (
    bindingRight (.level 0) (seq ["\x7b", many (rule "statement"), "\x7d",
      optional (rule "_automatic_semicolon")])),
  define "else_clause" (seq ["else", rule "statement"]),
  define "if_statement" (
    bindingRight (.level 0) (seq ["if", field "condition" (rule "parenthesized_expression"),
      field "consequence" (rule "statement"),
      optional (field "alternative" (rule "else_clause"))])),
  define "switch_statement" (
    seq ["switch", field "value" (rule "parenthesized_expression"),
      field "body" (rule "switch_body")])]

def statementRules : List (String × Rule) :=
  moduleRules ++ plainStatementRules ++ loopRules ++ jumpRules

end RepoSurvey.Script
