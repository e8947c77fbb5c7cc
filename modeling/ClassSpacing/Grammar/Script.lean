import ClassSpacing.Grammar.Script.Declarations
import ClassSpacing.Grammar.Script.Elements
import ClassSpacing.Grammar.Script.Literals
import ClassSpacing.Grammar.Script.Members
import ClassSpacing.Grammar.Script.Operations
import ClassSpacing.Grammar.Script.Statements
import ClassSpacing.Grammar.Script.Types
import ClassSpacing.Grammar.Script.Values

/-!
# The grammar of scripts

The rules of both dialects, with the orders of precedence that settle how operators, types and words
with several uses are read.
-/

namespace ClassSpacing.Grammar.Script

/-- The orders of precedence. -/
def orders : List (List Standing) := [
  [.level "member", .level "template", .level "call", .symbol "update_expression", .level "sign",
   .level "power", .level "product", .level "sum", .level "shift", .level "relation",
   .level "equality", .level "bitAnd", .level "bitXor", .level "bitOr", .level "and",
   .level "or", .level "conditional", .symbol "sequence_expression", .symbol "arrow_function"],
  [.level "assign", .symbol "primary_expression"],
  [.level "member", .level "template", .level "new", .level "call", .symbol "expression"],
  [.level "declare", .level "literal"],
  [.symbol "primary_expression", .symbol "statement_block", .level "object"],
  [.symbol "meta_property", .symbol "import"],
  [.symbol "import_statement", .symbol "import"],
  [.symbol "export_statement", .symbol "primary_expression"],
  [.symbol "lexical_declaration", .symbol "primary_expression"],
  [.level "call", .level "instantiation", .level "assertion", .level "cast",
   .symbol "await_expression", .symbol "arrow_function"],
  [.level "extends", .level "instantiation"],
  [.symbol "intersection_type", .symbol "union_type", .symbol "conditional_type",
   .symbol "function_type", .level "cast", .symbol "type_predicate", .symbol "readonly_type"],
  [.symbol "mapped_type_clause", .symbol "primary_expression"],
  [.symbol "accessibility_modifier", .symbol "primary_expression"],
  [.level "sign", .symbol "expression"],
  [.symbol "extends_clause", .symbol "primary_expression"],
  [.level "assertion", .level "assign"],
  [.level "declare", .symbol "expression"],
  [.symbol "predefined_type", .symbol "unary_expression"],
  [.symbol "type", .symbol "flow_maybe_type"],
  [.symbol "tuple_type", .symbol "array_type", .symbol "pattern", .symbol "type"],
  [.symbol "readonly_type", .symbol "pattern"],
  [.symbol "readonly_type", .symbol "primary_expression"],
  [.symbol "type_query", .symbol "subscript_expression", .symbol "expression"],
  [.symbol "type_query", .symbol "queriedSubscript"],
  [.symbol "nested_type_identifier", .symbol "generic_type", .symbol "primary_type",
   .symbol "lookup_type", .symbol "index_type_query", .symbol "type"],
  [.symbol "as_expression", .symbol "satisfies_expression", .symbol "primary_type"],
  [.symbol "queriedMember", .symbol "member_expression"],
  [.symbol "member_expression", .symbol "importedMember"],
  [.symbol "queriedMember", .symbol "primary_expression"],
  [.symbol "queriedSubscript", .symbol "subscript_expression"],
  [.symbol "queriedSubscript", .symbol "primary_expression"],
  [.symbol "queriedCall", .symbol "primary_expression"],
  [.symbol "queriedInstantiation", .symbol "primary_expression"],
  [.symbol "type_query", .symbol "primary_expression"],
  [.symbol "override_modifier", .symbol "primary_expression"],
  [.symbol "decoratorCall", .symbol "decorator"],
  [.symbol "literal_type", .symbol "pattern"],
  [.symbol "predefined_type", .symbol "pattern"],
  [.symbol "call_expression", .symbol "queriedCall"],
  [.symbol "call_expression", .symbol "importedCall"],
  [.symbol "new_expression", .symbol "primary_expression"],
  [.symbol "meta_property", .symbol "primary_expression"],
  [.symbol "construct_signature", .symbol "propertyName"]]

/-- The rules of a dialect. -/
def rules (dialect : Dialect) : Rules where
  start := "program"
  entries := statements ++ values dialect ++ elements ++ operations ++ literals ++ members ++
    declarations ++ types
  orders := orders

end ClassSpacing.Grammar.Script
