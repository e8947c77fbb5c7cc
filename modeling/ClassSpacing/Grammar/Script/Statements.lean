import ClassSpacing.Grammar.Rule

/-!
# Statements

The rules of a whole source, of exports and imports, and of statements.
-/

namespace ClassSpacing.Grammar.Script

/-- The entries of sources and statements. -/
def statements : List Entry := [
  shown "program" (.seq [opt .hashBang, many (the "statement")]),
  .token .hashBang,
  shown "export_statement" (.oneOf [
      .seq [
        "export",
        .oneOf [
          .seq ["*", the "origin"], .seq [the "namespace_export", the "origin"],
          .seq [the "export_clause", the "origin"], the "export_clause"], the "semicolon"],
      .seq [
        many (the "decorator"), "export",
        .oneOf [
          the "declaration",
          .seq ["default", .oneOf [the "declaration", .seq [the "expression", the "semicolon"]]]]],
      .seq ["export", "type", the "export_clause", opt (the "origin"), the "semicolon"],
      .seq ["export", "import", the "import_alias"],
      .seq ["export", "=", the "expression", the "semicolon"],
      .seq ["export", "as", "namespace", .identifier, the "semicolon"]]),
  shown "namespace_export" (.seq ["*", "as", the "exportedName"]),
  shown "export_clause" (.seq ["\x7b", opt (commas (the "export_specifier")), opt ",", "\x7d"]),
  shown "export_specifier" (.seq [
      opt (.oneOf ["type", "typeof"]), the "exportedName", opt (.seq ["as", the "exportedName"])]),
  hidden "exportedName" (.oneOf [.identifier, the "string", "default"]),
  hiddenBy "declaration" [
    { rule := .oneOf [
      the "function_declaration", the "generator_function_declaration", the "class_declaration",
      the "lexical_declaration", the "variable_declaration", the "function_signature",
      the "abstract_class_declaration", the "module"] },
    atLevel "declare" (the "internal_module"),
    { rule := .oneOf [
      the "type_alias_declaration", the "enum_declaration", the "interface_declaration",
      the "import_alias", the "ambient_declaration"] }],
  shown "import" "import",
  shown "import_statement" (.seq [
      "import", opt (.oneOf ["type", "typeof"]),
      .oneOf [.seq [the "import_clause", the "origin"], the "import_require_clause", the "string"],
      opt (the "import_attribute"), the "semicolon"]),
  shown "import_clause" (.oneOf [
      the "namespace_import", the "named_imports",
      .seq [
        the "importIdentifier",
        opt (.seq [",", .oneOf [the "namespace_import", the "named_imports"]])]]),
  hidden "origin" (.seq ["from", the "string"]),
  shown "namespace_import" (.seq ["*", "as", .identifier]),
  shown "named_imports" (.seq ["\x7b", opt (commas (the "import_specifier")), opt ",", "\x7d"]),
  shown "import_specifier" (.seq [
      opt (.oneOf ["type", "typeof"]),
      .oneOf [
        the "importIdentifier",
        .seq [
          .oneOf [the "exportedName", .shownAs "identifier" "type"], "as",
          the "importIdentifier"]]]),
  shown "import_attribute" (.seq ["with", the "object"]),
  hidden "statement" (.oneOf [
      the "export_statement", the "import_statement", the "debugger_statement",
      the "expression_statement", the "declaration", the "statement_block", the "if_statement",
      the "switch_statement", the "for_statement", the "for_in_statement", the "while_statement",
      the "do_statement", the "try_statement", the "with_statement", the "break_statement",
      the "continue_statement", the "return_statement", the "throw_statement",
      the "empty_statement", the "labeled_statement"]),
  shown "expression_statement" (.seq [the "expressions", the "semicolon"]),
  shown "variable_declaration" (.seq ["var", commas (the "variable_declarator"), the "semicolon"]),
  shown "lexical_declaration" (.seq [
      .oneOf ["let", "const"], commas (the "variable_declarator"), the "semicolon"]),
  shownBy "variable_declarator" [
    { rule := .seq [
      .oneOf [.identifier, the "destructuring"], opt (the "type_annotation"),
      opt (the "initializer")] },
    atLevel "declare" (.seq [.identifier, "!", the "type_annotation"])],
  shownBy "statement_block" [
    rightward (.seq ["\x7b", many (the "statement"), "\x7d", opt .statementEnd])],
  shown "else_clause" (.seq ["else", the "statement"]),
  shownBy "if_statement" [
    rightward (.seq [
      "if", the "parenthesized_expression", the "statement", opt (the "else_clause")])],
  shown "switch_statement" (.seq ["switch", the "parenthesized_expression", the "switch_body"]),
  shown "for_statement" (.seq [
      "for", "(",
      .oneOf [
        the "lexical_declaration", the "variable_declaration", .seq [the "expressions", ";"],
        the "empty_statement"], .oneOf [.seq [the "expressions", ";"], the "empty_statement"],
      opt (the "expressions"), ")", the "statement"]),
  shown "for_in_statement" (.seq ["for", opt "await", the "forHeader", the "statement"]),
  hidden "forHeader" (.seq [
      "(",
      .oneOf [
        the "target", the "parenthesized_expression",
        .seq ["var", .oneOf [.identifier, the "destructuring"], opt (the "initializer")],
        .seq [
          .oneOf ["let", "const"], .oneOf [.identifier, the "destructuring"], opt .statementEnd]],
      .oneOf ["in", "of"], the "expressions", ")"]),
  shown "while_statement" (.seq ["while", the "parenthesized_expression", the "statement"]),
  shownBy "do_statement" [
    rightward (.seq [
      "do", the "statement", "while", the "parenthesized_expression", opt (the "semicolon")])],
  shown "try_statement" (.seq [
      "try", the "statement_block", opt (the "catch_clause"), opt (the "finally_clause")]),
  shown "with_statement" (.seq ["with", the "parenthesized_expression", the "statement"]),
  shown "break_statement" (.seq [
      "break", opt (.shownAs "statement_identifier" .identifier), the "semicolon"]),
  shown "continue_statement" (.seq [
      "continue", opt (.shownAs "statement_identifier" .identifier), the "semicolon"]),
  shown "debugger_statement" (.seq ["debugger", the "semicolon"]),
  shown "return_statement" (.seq ["return", opt (the "expressions"), the "semicolon"]),
  shown "throw_statement" (.seq ["throw", the "expressions", the "semicolon"]),
  shown "empty_statement" ";",
  shownBy "labeled_statement" [
    unlikely (.seq [
      .shownAs "statement_identifier" (.oneOf [.identifier, the "contextualKeyword"]), ":",
      the "statement"])],
  shown "switch_body" (.seq [
      "\x7b", many (.oneOf [the "switch_case", the "switch_default"]), "\x7d"]),
  shown "switch_case" (.seq ["case", the "expressions", ":", many (the "statement")]),
  shown "switch_default" (.seq ["default", ":", many (the "statement")]),
  shown "catch_clause" (.seq [
      "catch",
      opt (.seq ["(", .oneOf [.identifier, the "destructuring"], opt (the "type_annotation"), ")"]),
      the "statement_block"]),
  shown "finally_clause" (.seq ["finally", the "statement_block"])]

end ClassSpacing.Grammar.Script
