import ClassSpacing.Grammar.Rule

/-!
# Literals

The rules of quoted texts, templates and regular expressions, and the names and literals that are
tokens.
-/

namespace ClassSpacing.Grammar.Script

/-- The entries of literals. -/
def literals : List Entry := [
  shown "string" (.oneOf [
      .seq ["\"", many (.oneOf [.doubleText, .escape]), "\""],
      .seq ["'", many (.oneOf [.singleText, .escape]), "'"]]),
  .token .doubleText,
  .token .singleText,
  .token .escape,
  .token .comment,
  shown "template_string" (.seq [
      "`", many (.oneOf [.templateText, .escape, the "template_substitution"]), "`"]),
  shown "template_substitution" (.seq ["$\x7b", the "expressions", "\x7d"]),
  shown "regex" (.seq ["/", .regexPattern, .regexEnd, opt .regexFlags]),
  .token .regexPattern,
  .token .regexFlags,
  .token .number,
  inlined "plainIdentifier" (.oneOf ["undefined", .identifier]),
  .token .identifier,
  .token .privateName,
  shown "meta_property" (.oneOf [.seq ["new", ".", "target"], .seq ["import", ".", "meta"]]),
  .token (.word "this"),
  .token (.word "super"),
  .token (.word "true"),
  .token (.word "false"),
  .token (.word "null"),
  .token (.word "undefined")]

end ClassSpacing.Grammar.Script
