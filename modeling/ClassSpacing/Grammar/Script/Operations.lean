import ClassSpacing.Grammar.Rule

/-!
# Operations

The rules of classes and functions, of calls and members, and of operators.
-/

namespace ClassSpacing.Grammar.Script

/-- The entries of classes, functions and operators. -/
def operations : List Entry := [
  shownBy "class" [
    atLevel "literal" (.seq [
      many (the "decorator"), "class", opt (the "typeIdentifier"), opt (the "type_parameters"),
      opt (the "class_heritage"), the "class_body"])],
  shownBy "class_declaration" [
    leftAt "declare" (.seq [
      many (the "decorator"), "class", the "typeIdentifier", opt (the "type_parameters"),
      opt (the "class_heritage"), the "class_body", opt .statementEnd])],
  shown "class_heritage" (.oneOf [
      .seq [the "extends_clause", opt (the "implements_clause")], the "implements_clause"]),
  shownBy "function_expression" [
    atLevel "literal" (.seq [
      opt "async", "function", opt .identifier, the "signature", the "statement_block"])],
  shownBy "function_declaration" [
    rightAt "declare" (.seq [
      opt "async", "function", .identifier, the "signature", the "statement_block",
      opt .statementEnd])],
  shownBy "generator_function" [
    atLevel "literal" (.seq [
      opt "async", "function", "*", opt .identifier, the "signature", the "statement_block"])],
  shownBy "generator_function_declaration" [
    rightAt "declare" (.seq [
      opt "async", "function", "*", .identifier, the "signature", the "statement_block",
      opt .statementEnd])],
  shown "arrow_function" (.seq [
      opt "async",
      .oneOf [.shownAs "identifier" (the "contextualKeyword"), .identifier, the "signature"], "=>",
      .oneOf [the "expression", the "statement_block"]]),
  hidden "signature" (.seq [
      opt (the "type_parameters"), the "formal_parameters",
      opt (.oneOf [
        the "type_annotation", the "asserts_annotation", the "type_predicate_annotation"])]),
  hidden "parameter" (.oneOf [the "required_parameter", the "optional_parameter"]),
  shown "optional_chain" "?.",
  shownBy "call_expression" [
    atLevel "call" (.seq [
      .oneOf [the "expression", the "import"], opt (the "type_arguments"), the "arguments"]),
    atLevel "template" (.seq [
      .oneOf [the "primary_expression", the "new_expression"], the "template_string"]),
    atLevel "member" (.seq [
      the "primary_expression", "?.", opt (the "type_arguments"), the "arguments"])],
  shownBy "new_expression" [
    rightAt "new" (.seq [
      "new", the "primary_expression", opt (the "type_arguments"), opt (the "arguments")])],
  shownBy "await_expression" [atLevel "sign" (.seq ["await", the "expression"])],
  shownBy "member_expression" [
    atLevel "member" (.seq [
      .oneOf [the "expression", the "primary_expression", the "import"],
      .oneOf [".", the "optional_chain"],
      .oneOf [.privateName, .shownAs "property_identifier" .identifier]])],
  shownBy "subscript_expression" [
    rightAt "member" (.seq [
      .oneOf [the "expression", the "primary_expression"], opt (the "optional_chain"), "[",
      the "expressions", "]"])],
  inlined "target" (.oneOf [
      the "member_expression", the "subscript_expression", the "plainIdentifier",
      .shownAs "identifier" (the "contextualKeyword"), the "destructuring",
      the "non_null_expression"]),
  shownBy "assignment_expression" [
    rightAt "assign" (.seq [
      opt "using", .oneOf [the "parenthesized_expression", the "target"], "=", the "expression"])],
  hidden "updatedTarget" (.oneOf [
      the "member_expression", the "subscript_expression",
      .shownAs "identifier" (the "contextualKeyword"), .identifier, the "parenthesized_expression",
      the "non_null_expression"]),
  shownBy "augmented_assignment_expression" [
    rightAt "assign" (.seq [
      the "updatedTarget",
      .oneOf [
        "+=", "-=", "*=", "/=", "%=", "^=", "&=", "|=", ">>=", ">>>=", "<<=", "**=", "&&=", "||=",
        "??="], the "expression"])],
  hidden "initializer" (.seq ["=", the "expression"]),
  hidden "destructuring" (.oneOf [the "object_pattern", the "array_pattern"]),
  shown "spread_element" (.seq ["...", the "expression"]),
  shownBy "ternary_expression" [
    rightAt "conditional" (.seq [
      the "expression", .conditionMark, the "expression", ":", the "expression"])],
  shownBy "binary_expression" [
    leftAt "and" (.seq [the "expression", "&&", the "expression"]),
    leftAt "or" (.seq [the "expression", "||", the "expression"]),
    leftAt "shift" (.seq [the "expression", ">>", the "expression"]),
    leftAt "shift" (.seq [the "expression", ">>>", the "expression"]),
    leftAt "shift" (.seq [the "expression", "<<", the "expression"]),
    leftAt "bitAnd" (.seq [the "expression", "&", the "expression"]),
    leftAt "bitXor" (.seq [the "expression", "^", the "expression"]),
    leftAt "bitOr" (.seq [the "expression", "|", the "expression"]),
    leftAt "sum" (.seq [the "expression", "+", the "expression"]),
    leftAt "sum" (.seq [the "expression", "-", the "expression"]),
    leftAt "product" (.seq [the "expression", "*", the "expression"]),
    leftAt "product" (.seq [the "expression", "/", the "expression"]),
    leftAt "product" (.seq [the "expression", "%", the "expression"]),
    rightAt "power" (.seq [the "expression", "**", the "expression"]),
    leftAt "relation" (.seq [the "expression", "<", the "expression"]),
    leftAt "relation" (.seq [the "expression", "<=", the "expression"]),
    leftAt "equality" (.seq [the "expression", "==", the "expression"]),
    leftAt "equality" (.seq [the "expression", "===", the "expression"]),
    leftAt "equality" (.seq [the "expression", "!=", the "expression"]),
    leftAt "equality" (.seq [the "expression", "!==", the "expression"]),
    leftAt "relation" (.seq [the "expression", ">=", the "expression"]),
    leftAt "relation" (.seq [the "expression", ">", the "expression"]),
    leftAt "conditional" (.seq [the "expression", "??", the "expression"]),
    leftAt "relation" (.seq [the "expression", "instanceof", the "expression"]),
    leftAt "relation" (.seq [.oneOf [the "expression", .privateName], "in", the "expression"])],
  shownBy "unary_expression" [
    leftAt "sign" (.seq [
      .oneOf ["!", "~", "-", "+", "typeof", "void", "delete"], the "expression"])],
  shownBy "update_expression" [
    leftward (.oneOf [
      .seq [the "expression", .oneOf ["++", "--"]], .seq [.oneOf ["++", "--"], the "expression"]])],
  shownBy "sequence_expression" [rightward (commas (the "expression"))]]

end ClassSpacing.Grammar.Script
