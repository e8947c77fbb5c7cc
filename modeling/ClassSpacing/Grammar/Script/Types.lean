import ClassSpacing.Grammar.Rule

/-!
# Types

The rules of types and of where they may be given.
-/

namespace ClassSpacing.Grammar.Script

/-- The entries of types. -/
def types : List Entry := [
  shown "omitting_type_annotation" (.seq ["-?:", the "type"]),
  shown "adding_type_annotation" (.seq ["+?:", the "type"]),
  shown "opting_type_annotation" (.seq ["?:", the "type"]),
  shown "type_annotation" (.seq [
      ":", .oneOf [the "type", the "importedMember", the "importedCall"]]),
  shownLike "importedMember" "member_expression"
    { rule := .seq [
      .oneOf [the "import", the "importedMember", the "importedCall"], ".",
      .oneOf [.privateName, .shownAs "property_identifier" .identifier]] },
  shownLike "importedCall" "call_expression"
    { rule := .seq [.oneOf [the "import", the "importedMember"], the "arguments"] },
  shown "asserts" (.seq ["asserts", .oneOf [the "type_predicate", .identifier, "this"]]),
  shown "asserts_annotation" (.seq [":", the "asserts"]),
  hiddenBy "type" [
    { rule := .oneOf [
      the "primary_type", the "function_type", the "readonly_type", the "constructor_type",
      the "infer_type"] },
    { rule := the "importedMember", rank := .number (-1) },
    { rule := the "importedCall", rank := .number (-1) }],
  shownLike "tupleParameter" "required_parameter"
    { rule := .seq [.oneOf [.identifier, the "rest_pattern"], the "type_annotation"] },
  shownLike "optionalTupleParameter" "optional_parameter"
    { rule := .seq [.identifier, "?", the "type_annotation"] },
  shown "optional_type" (.seq [the "type", "?"]),
  shown "rest_type" (.seq ["...", the "type"]),
  hidden "tupleMember" (.oneOf [
      the "tupleParameter", the "optionalTupleParameter", the "optional_type", the "rest_type",
      the "type"]),
  shownBy "constructor_type" [
    leftward (.seq [
      opt "abstract", "new", opt (the "type_parameters"), the "formal_parameters", "=>",
      the "type"])],
  hidden "primary_type" (.oneOf [
      the "parenthesized_type", the "predefined_type", the "typeIdentifier",
      the "nested_type_identifier", the "generic_type", the "object_type", the "array_type",
      the "tuple_type", the "flow_maybe_type", the "type_query", the "index_type_query",
      .shownAs "this_type" "this", the "existential_type", the "literal_type", the "lookup_type",
      the "conditional_type", the "template_literal_type", the "intersection_type",
      the "union_type", "const"]),
  shown "template_type" (.seq ["$\x7b", .oneOf [the "primary_type", the "infer_type"], "\x7d"]),
  shown "template_literal_type" (.seq [
      "`", many (.oneOf [.templateText, the "template_type"]), "`"]),
  shownBy "infer_type" [
    rightward (.seq ["infer", the "typeIdentifier", opt (.seq ["extends", the "type"])])],
  shownBy "conditional_type" [
    rightward (.seq [the "type", "extends", the "type", "?", the "type", ":", the "type"])],
  shownBy "generic_type" [
    atLevel "call" (.seq [
      .oneOf [the "typeIdentifier", the "nested_type_identifier"], the "type_arguments"])],
  shown "type_predicate" (.seq [
      .oneOf [.identifier, "this", .shownAs "identifier" (the "predefined_type")], "is",
      the "type"]),
  shown "type_predicate_annotation" (.seq [":", the "type_predicate"]),
  shownLike "queriedMember" "member_expression"
    { rule := .seq [
      .oneOf [.identifier, "this", the "queriedSubscript", the "queriedMember", the "queriedCall"],
      .oneOf [".", "?."], .oneOf [.privateName, .shownAs "property_identifier" .identifier]] },
  shownLike "queriedSubscript" "subscript_expression"
    { rule := .seq [
      .oneOf [.identifier, "this", the "queriedSubscript", the "queriedMember", the "queriedCall"],
      opt "?.", "[", .oneOf [the "predefined_type", the "string", .number], "]"] },
  shownLike "queriedCall" "call_expression"
    { rule := .seq [
      .oneOf [the "import", .identifier, the "queriedMember", the "queriedSubscript"],
      the "arguments"] },
  shownLike "queriedInstantiation" "instantiation_expression"
    { rule := .seq [
      .oneOf [the "import", .identifier, the "queriedMember", the "queriedSubscript"],
      the "type_arguments"] },
  shownBy "type_query" [
    rightward (.seq [
      "typeof",
      .oneOf [
        the "queriedSubscript", the "queriedMember", the "queriedCall", the "queriedInstantiation",
        .identifier, "this"]])],
  shown "index_type_query" (.seq ["keyof", the "primary_type"]),
  shown "lookup_type" (.seq [the "primary_type", "[", the "type", "]"]),
  shown "mapped_type_clause" (.seq [
      the "typeIdentifier", "in", the "type", opt (.seq ["as", the "type"])]),
  shown "literal_type" (.oneOf [
      the "signedNumber", .number, the "string", "true", "false", "null", "undefined"]),
  shownLike "signedNumber" "unary_expression"
    { rule := .seq [.oneOf ["-", "+"], .number], rank := .number 1, side? := some .left },
  shown "existential_type" "*",
  shownBy "flow_maybe_type" [rightward (.seq ["?", the "primary_type"])],
  shown "parenthesized_type" (.seq ["(", the "type", ")"]),
  shown "predefined_type" (.oneOf [
      "any", "number", "boolean", "string", "symbol", .seq ["unique", "symbol"], "void", "unknown",
      "string", "never", "object"]),
  shown "type_arguments" (.seq ["<", commas (the "type"), opt ",", ">"]),
  shown "object_type" (.seq [
      .oneOf ["\x7b", "\x7b|"],
      opt (.seq [
        opt (.oneOf [",", ";"]),
        separated (.oneOf [",", the "semicolon"]) (.oneOf [
          the "export_statement", the "property_signature", the "call_signature",
          the "construct_signature", the "index_signature", the "method_signature"]),
        opt (.oneOf [",", the "semicolon"])]), .oneOf ["\x7d", "|\x7d"]]),
  shown "call_signature" (the "signature"),
  shown "property_signature" (.seq [
      opt (the "accessibility_modifier"), opt "static", opt (the "override_modifier"),
      opt "readonly", the "propertyName", opt "?", opt (the "type_annotation")]),
  shown "type_parameters" (.seq ["<", commas (the "type_parameter"), opt ",", ">"]),
  shown "type_parameter" (.seq [
      opt "const", the "typeIdentifier", opt (the "constraint"), opt (the "default_type")]),
  shown "default_type" (.seq ["=", the "type"]),
  shown "constraint" (.seq [.oneOf ["extends", ":"], the "type"]),
  shown "construct_signature" (.seq [
      opt "abstract", "new", opt (the "type_parameters"), the "formal_parameters",
      opt (the "type_annotation")]),
  shown "index_signature" (.seq [
      opt (.seq [opt (.oneOf ["-", "+"]), "readonly"]), "[",
      .oneOf [
        .seq [
          .oneOf [.identifier, .shownAs "identifier" (the "contextualKeyword")], ":", the "type"],
        the "mapped_type_clause"], "]",
      .oneOf [
        the "type_annotation", the "omitting_type_annotation", the "adding_type_annotation",
        the "opting_type_annotation"]]),
  shown "array_type" (.seq [the "primary_type", "[", "]"]),
  shown "tuple_type" (.seq ["[", opt (commas (the "tupleMember")), opt ",", "]"]),
  shown "readonly_type" (.seq ["readonly", the "type"]),
  shownBy "union_type" [leftward (.seq [opt (the "type"), "|", the "type"])],
  shownBy "intersection_type" [leftward (.seq [opt (the "type"), "&", the "type"])],
  shownBy "function_type" [
    leftward (.seq [
      opt (the "type_parameters"), the "formal_parameters", "=>",
      .oneOf [the "type", the "asserts", the "type_predicate"]])],
  inlined "typeIdentifier" (.shownAs "type_identifier" .identifier)]

end ClassSpacing.Grammar.Script
