import ClassSpacing.Grammar.Rule

/-!
# Members

The rules of arguments and parameters, of decorators, and of the members of classes and object
literals.
-/

namespace ClassSpacing.Grammar.Script

/-- The entries of members. -/
def members : List Entry := [
  shown "arguments" (.seq [
      "(", opt (commas (opt (.oneOf [the "expression", the "spread_element"]))), ")"]),
  shown "decorator" (.seq [
      "@",
      .oneOf [
        .identifier, the "decoratorMember", the "decoratorCall", the "decoratorParenthesized"]]),
  shownLike "decoratorMember" "member_expression"
    (atLevel "member" (.seq [
      .oneOf [.identifier, the "decoratorMember"], ".",
      .shownAs "property_identifier" .identifier])),
  shownLike "decoratorCall" "call_expression"
    (atLevel "call" (.seq [
      .oneOf [.identifier, the "decoratorMember"], opt (the "type_arguments"), the "arguments"])),
  shown "class_body" (.seq [
      "\x7b",
      many (.oneOf [
        .seq [many (the "decorator"), the "method_definition", opt (the "semicolon")],
        .seq [the "method_signature", .oneOf [.signatureEnd, ","]], the "class_static_block",
        .seq [
          .oneOf [
            the "abstract_method_signature", the "index_signature", the "method_signature",
            the "public_field_definition"], .oneOf [the "semicolon", ","]], ";"]), "\x7d"]),
  shown "formal_parameters" (.seq ["(", opt (.seq [commas (the "parameter"), opt ","]), ")"]),
  shown "class_static_block" (.seq ["static", opt .statementEnd, the "statement_block"]),
  hiddenBy "pattern" [unlikely (.oneOf [the "target", the "rest_pattern"])],
  shownBy "rest_pattern" [rightward (.seq ["...", the "target"])],
  shownBy "method_definition" [
    leftward (.seq [
      opt (the "accessibility_modifier"), opt "static", opt (the "override_modifier"),
      opt "readonly", opt "async", opt (.oneOf ["get", "set", "*"]), .asName (the "propertyName"),
      opt "?", the "signature", the "statement_block"])],
  shown "pair" (.seq [the "propertyName", ":", the "expression"]),
  shown "pair_pattern" (.seq [
      the "propertyName", ":", .oneOf [the "pattern", the "assignment_pattern"]]),
  hidden "propertyName" (.oneOf [
      .shownAs "property_identifier" (.oneOf [.identifier, the "contextualKeyword"]), .privateName,
      the "string", .number, the "computed_property_name"]),
  shown "computed_property_name" (.seq ["[", the "expression", "]"]),
  inlined "contextualKeyword" (.oneOf [
      "declare", "namespace", "type", "public", "private", "protected", "override", "readonly",
      "module", "any", "number", "boolean", "string", "symbol", "export", "object", "new",
      "readonly", "get", "set", "async", "static", "export", "let"]),
  inlined "semicolon" (.oneOf [.statementEnd, ";"])]

end ClassSpacing.Grammar.Script
