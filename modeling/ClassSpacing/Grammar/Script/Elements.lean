import ClassSpacing.Grammar.Rule

/-!
# Elements

The rules of elements: tags, attributes and what stands between them.
-/

namespace ClassSpacing.Grammar.Script

/-- The entries of elements. -/
def elements : List Entry := [
  shown "jsx_element" (.seq [
      the "jsx_opening_element", many (the "elementChild"), the "jsx_closing_element"]),
  .token .characterReference,
  shown "jsx_expression" (.seq [
      "\x7b", opt (.oneOf [the "expression", the "sequence_expression", the "spread_element"]),
      "\x7d"]),
  inlined "elementChild" (.oneOf [
      .elementText, .characterReference, the "element", the "jsx_expression"]),
  shownBy "jsx_opening_element" [unlikely (.seq [the "openingTag", ">"])],
  .token .hyphenatedName,
  inlined "elementIdentifier" (.oneOf [.hyphenatedName, .identifier]),
  shownBy "nested_identifier" [
    atLevel "member" (.seq [
      .oneOf [.identifier, .shownAs "member_expression" (the "nested_identifier")], ".",
      .shownAs "property_identifier" .identifier])],
  shown "jsx_namespace_name" (.seq [the "elementIdentifier", ":", the "elementIdentifier"]),
  inlined "elementName" (.oneOf [
      the "elementIdentifier", .shownAs "member_expression" (the "nested_identifier"),
      the "jsx_namespace_name"]),
  shown "jsx_closing_element" (.seq ["</", opt (the "elementName"), ">"]),
  shownBy "jsx_self_closing_element" [unlikely (.seq [the "openingTag", "/>"])],
  inlined "attribute" (.oneOf [the "jsx_attribute", the "jsx_expression"]),
  inlined "attributeName" (.oneOf [
      .shownAs "property_identifier" (the "elementIdentifier"), the "jsx_namespace_name"]),
  shown "jsx_attribute" (.seq [the "attributeName", opt (.seq ["=", the "attributeValue"])]),
  shownLike "attributeString" "string"
    { rule := .oneOf [
      .seq ["\"", many (.oneOf [.doubleAttribute, .characterReference]), "\""],
      .seq ["'", many (.oneOf [.singleAttribute, .characterReference]), "'"]] },
  .token .doubleAttribute,
  .token .singleAttribute,
  inlined "attributeValue" (.oneOf [the "attributeString", the "jsx_expression", the "element"]),
  inlined "element" (.oneOf [the "jsx_element", the "jsx_self_closing_element"])]

end ClassSpacing.Grammar.Script
