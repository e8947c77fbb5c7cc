import ClassSpacing.Dialect
import ClassSpacing.Grammar.Rule

/-!
# Values

The rules of values in general, of object and array literals and of the patterns that take them
apart.
-/

namespace ClassSpacing.Grammar.Script

/-- The values that bind most tightly, with what angle brackets before a value are: a type in them
    asserts the value's type, or they are the tags of an element. -/
def tightValues : Dialect → Rule
  | .typeScript => .oneOf [the "type_assertion", the "primary_expression"]
  | .tsx => .oneOf [the "primary_expression", the "element"]

/-- The entries of values. -/
def values (dialect : Dialect) : List Entry := [
  shown "parenthesized_expression" (.seq [
      "(", .oneOf [.seq [the "expression", opt (the "type_annotation")], the "sequence_expression"],
      ")"]),
  inlined "expressions" (.oneOf [the "expression", the "sequence_expression"]),
  hidden "expression" (.oneOf [
      the "as_expression", the "satisfies_expression", the "instantiation_expression",
      the "internal_module", tightValues dialect, the "assignment_expression",
      the "augmented_assignment_expression", the "await_expression",
      the "unary_expression", the "binary_expression", the "ternary_expression",
      the "update_expression", the "new_expression", the "yield_expression"]),
  hidden "primary_expression" (.oneOf [
      the "subscript_expression", the "member_expression", the "parenthesized_expression",
      the "plainIdentifier", .shownAs "identifier" (the "contextualKeyword"), "this", "super",
      .number, the "string", the "template_string", the "regex", "true", "false", "null",
      the "object", the "array", the "function_expression", the "arrow_function",
      the "generator_function", the "class", the "meta_property", the "call_expression",
      the "non_null_expression"]),
  shownBy "yield_expression" [
    rightward (.seq ["yield", .oneOf [.seq ["*", the "expression"], opt (the "expression")]])],
  shownBy "object" [
    atLevel "object" (.seq [
      "\x7b",
      opt (commas (opt (.oneOf [
        the "pair", the "spread_element", the "method_definition",
        .shownAs "shorthand_property_identifier" (.oneOf [
          .identifier, the "contextualKeyword"])]))), "\x7d"])],
  shownBy "object_pattern" [
    atLevel "object" (.seq [
      "\x7b",
      opt (commas (opt (.oneOf [
        the "pair_pattern", the "rest_pattern", the "object_assignment_pattern",
        .shownAs "shorthand_property_identifier_pattern" (.oneOf [
          .identifier, the "contextualKeyword"])]))), "\x7d"])],
  shown "assignment_pattern" (.seq [the "pattern", "=", the "expression"]),
  shown "object_assignment_pattern" (.seq [
      .oneOf [
        .shownAs "shorthand_property_identifier_pattern" (.oneOf [
          the "contextualKeyword", .identifier]), the "destructuring"], "=", the "expression"]),
  shown "array" (.seq [
      "[", opt (commas (opt (.oneOf [the "expression", the "spread_element"]))), "]"]),
  shown "array_pattern" (.seq [
      "[", opt (commas (opt (.oneOf [the "pattern", the "assignment_pattern"]))), "]"])]

end ClassSpacing.Grammar.Script
