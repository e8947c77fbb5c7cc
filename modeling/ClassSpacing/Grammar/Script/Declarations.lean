import ClassSpacing.Grammar.Rule

/-!
# Declarations

The rules of fields and signatures, of assertions of types, and of the declarations that only
concern types and modules.
-/

namespace ClassSpacing.Grammar.Script

/-- The entries of declarations and signatures. -/
def declarations : List Entry := [
  shown "public_field_definition" (.seq [
      many (the "decorator"),
      opt (.oneOf [
        .seq ["declare", opt (the "accessibility_modifier")],
        .seq [the "accessibility_modifier", opt "declare"]]),
      .oneOf [
        .seq [opt "static", opt (the "override_modifier"), opt "readonly"],
        .seq [opt "abstract", opt "readonly"], .seq [opt "readonly", opt "abstract"],
        opt "accessor"], the "propertyName", opt (.oneOf ["?", "!"]), opt (the "type_annotation"),
      opt (the "initializer")]),
  inlined "openingTag" (.seq [
      "<",
      opt (.seq [
        .oneOf [
          the "elementIdentifier", the "jsx_namespace_name",
          .seq [
            .oneOf [.identifier, .shownAs "member_expression" (the "nested_identifier")],
            opt (the "type_arguments")]], many (the "attribute")])]),
  hidden "importIdentifier" (.oneOf [.identifier, .shownAs "identifier" "type"]),
  shownBy "non_null_expression" [leftAt "assertion" (.seq [the "expression", "!"])],
  shown "method_signature" (.seq [
      opt (the "accessibility_modifier"), opt "static", opt (the "override_modifier"),
      opt "readonly", opt "async", opt (.oneOf ["get", "set", "*"]), .asName (the "propertyName"),
      opt "?", the "signature"]),
  shown "abstract_method_signature" (.seq [
      opt (the "accessibility_modifier"), "abstract", opt (the "override_modifier"),
      opt (.oneOf ["get", "set", "*"]), .asName (the "propertyName"), opt "?", the "signature"]),
  shown "function_signature" (.seq [
      opt "async", "function", .identifier, the "signature",
      .oneOf [the "semicolon", .signatureEnd]]),
  shownLike "decoratorParenthesized" "parenthesized_expression"
    { rule := .seq ["(", .oneOf [.identifier, the "decoratorMember", the "decoratorCall"], ")"] },
  shownBy "type_assertion" [leftAt "assertion" (.seq [the "type_arguments", the "expression"])],
  shownBy "as_expression" [
    leftAt "cast" (.seq [the "expression", "as", .oneOf ["const", the "type"]])],
  shownBy "satisfies_expression" [leftAt "cast" (.seq [the "expression", "satisfies", the "type"])],
  shownBy "instantiation_expression" [
    atLevel "instantiation" (.seq [the "expression", the "type_arguments"])],
  shown "import_require_clause" (.seq [.identifier, "=", "require", "(", the "string", ")"]),
  shown "extends_clause" (.seq ["extends", commas (the "extended")]),
  hiddenBy "extended" [atLevel "extends" (.seq [the "expression", opt (the "type_arguments")])],
  shown "implements_clause" (.seq ["implements", commas (the "type")]),
  shown "ambient_declaration" (.seq [
      "declare",
      .oneOf [
        the "declaration", .seq ["global", the "statement_block"],
        .seq [
          "module", ".", .shownAs "property_identifier" .identifier, ":", the "type",
          the "semicolon"]]]),
  shownBy "abstract_class_declaration" [
    atLevel "declare" (.seq [
      many (the "decorator"), "abstract", "class", the "typeIdentifier",
      opt (the "type_parameters"), opt (the "class_heritage"), the "class_body"])],
  shown "module" (.seq ["module", the "moduleBody"]),
  shown "internal_module" (.seq ["namespace", the "moduleBody"]),
  hiddenBy "moduleBody" [
    rightward (.seq [
      .oneOf [the "string", .identifier, the "nested_identifier"], opt (the "statement_block")])],
  shown "import_alias" (.seq [
      "import", .identifier, "=", .oneOf [.identifier, the "nested_identifier"], the "semicolon"]),
  shownBy "nested_type_identifier" [
    atLevel "member" (.seq [
      .oneOf [.identifier, the "nested_identifier"], ".", the "typeIdentifier"])],
  shown "interface_declaration" (.seq [
      "interface", the "typeIdentifier", opt (the "type_parameters"),
      opt (the "extends_type_clause"), .shownAs "interface_body" (the "object_type")]),
  shown "extends_type_clause" (.seq [
      "extends",
      commas (.oneOf [the "typeIdentifier", the "nested_type_identifier", the "generic_type"])]),
  shown "enum_declaration" (.seq [opt "const", "enum", .identifier, the "enum_body"]),
  shown "enum_body" (.seq [
      "\x7b",
      opt (.seq [separated "," (.oneOf [the "propertyName", the "enum_assignment"]), opt ","]),
      "\x7d"]),
  shown "enum_assignment" (.seq [the "propertyName", the "initializer"]),
  shown "type_alias_declaration" (.seq [
      "type", the "typeIdentifier", opt (the "type_parameters"), "=", the "type", the "semicolon"]),
  shown "accessibility_modifier" (.oneOf ["public", "private", "protected"]),
  shown "override_modifier" "override",
  shown "required_parameter" (.seq [
      the "parameterName", opt (the "type_annotation"), opt (the "initializer")]),
  shown "optional_parameter" (.seq [
      the "parameterName", "?", opt (the "type_annotation"), opt (the "initializer")]),
  hidden "parameterName" (.seq [
      many (the "decorator"), opt (the "accessibility_modifier"), opt (the "override_modifier"),
      opt "readonly", .oneOf [the "pattern", "this"]])]

end ClassSpacing.Grammar.Script
