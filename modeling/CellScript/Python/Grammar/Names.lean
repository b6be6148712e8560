import CellScript.Python.Kind

set_option autoImplicit false

/-! # The symbols of the grammar

Symbols are numbered: `0` is the end of the text, `1` the identifier, then the other tokens, the
tokens that depend on layout, and from `firstPhrase` on the phrases. This table gives each its kind
and says which ones appear in a tree. -/

namespace CellScript.Python.Grammar

/-- The number of tokens; every symbol from here on is a phrase. -/
def firstPhrase : Nat := 108

/-- Entries 0 to 15 of `kinds`. -/
def kinds0 : List Kind :=
  [.other "end", .identifier, .other ";", .other "import", .other ".", .other "from",
   .other "__future__", .other "(", .other ")", .other ",", .other "as", .other "*",
   .other "print", .other ">>", .other "assert", .other ":="]

/-- Entries 16 to 31 of `kinds`. -/
def kinds1 : List Kind :=
  [.other "return", .other "del", .other "raise", .other "pass", .other "break",
   .other "continue", .other "if", .colon, .other "elif", .other "else", .other "match",
   .other "case", .other "async", .other "for", .other "in", .other "while"]

/-- Entries 32 to 47 of `kinds`. -/
def kinds2 : List Kind :=
  [.other "try", .other "except", .other "except*", .other "finally", .other "with", .other "def",
   .other "->", .other "**", .other "global", .other "nonlocal", .other "exec", .other "type",
   .other "=", .other "class", .other "[", .other "]"]

/-- Entries 48 to 63 of `kinds`. -/
def kinds3 : List Kind :=
  [.other "@", .other "-", .other "_", .other "|", .other "\x7b", .other "\x7d", .other "+",
   .other "not", .other "and", .other "or", .other "/", .other "%", .other "//", .other "&",
   .other "^", .other "<<"]

/-- Entries 64 to 79 of `kinds`. -/
def kinds4 : List Kind :=
  [.other "~", .other "is", .other "<", .other "<=", .other "==", .other "!=", .other ">=",
   .other ">", .other "<>", .lambda, .other "+=", .other "-=", .other "*=", .other "/=",
   .other "@=", .other "//="]

/-- Entries 80 to 95 of `kinds`. -/
def kinds5 : List Kind :=
  [.other "%=", .other "**=", .other ">>=", .other "<<=", .other "&=", .other "^=", .other "|=",
   .yield, .other "ellipsis", .other "escape_sequence", .other "\\",
   .other "format_specifier_token1", .other "type_conversion", .other "integer", .other "float",
   .other "await"]

/-- Entries 96 to 111 of `kinds`. -/
def kinds6 : List Kind :=
  [.other "true", .other "false", .other "none", .comment, .other "line_continuation",
   .other "_newline", .other "_indent", .other "_dedent", .stringStart, .other "_string_content",
   .other "escape_interpolation", .stringEnd, .module, .other "_statement",
   .other "_simple_statements", .other "import_statement"]

/-- Entries 112 to 127 of `kinds`. -/
def kinds7 : List Kind :=
  [.other "import_prefix", .other "relative_import", .other "future_import_statement",
   .other "import_from_statement", .other "_import_list", .other "aliased_import",
   .other "wildcard_import", .printStatement, .other "chevron", .other "assert_statement",
   .expressionStatement, .other "named_expression", .other "_named_expression_lhs",
   .returnStatement, .other "delete_statement", .other "raise_statement"]

/-- Entries 128 to 143 of `kinds`. -/
def kinds8 : List Kind :=
  [.other "pass_statement", .breakStatement, .continueStatement, .other "if_statement",
   .other "elif_clause", .other "else_clause", .other "match_statement", .other "_match_block",
   .other "case_clause", .forStatement, .whileStatement, .other "try_statement",
   .other "except_clause", .other "except_group_clause", .other "finally_clause", .withStatement]

/-- Entries 144 to 159 of `kinds`. -/
def kinds9 : List Kind :=
  [.withClause, .withItem, .functionDefinition, .other "parameters", .other "lambda_parameters",
   .other "list_splat", .other "dictionary_splat", .other "global_statement",
   .other "nonlocal_statement", .execStatement, .other "type_alias_statement", .classDefinition,
   .other "type_parameter", .other "parenthesized_list_splat", .other "argument_list",
   .other "decorated_definition"]

/-- Entries 160 to 175 of `kinds`. -/
def kinds10 : List Kind :=
  [.other "decorator", .block, .other "expression_list", .other "dotted_name",
   .other "case_pattern", .other "_simple_pattern", .asPattern, .other "union_pattern",
   .other "list_pattern", .other "tuple_pattern", .other "dict_pattern",
   .other "_key_value_pattern", .other "keyword_pattern", .other "splat_pattern",
   .other "class_pattern", .other "complex_pattern"]

/-- Entries 176 to 191 of `kinds`. -/
def kinds11 : List Kind :=
  [.other "_parameters", .other "_patterns", .other "parameter", .other "pattern",
   .other "tuple_pattern", .other "list_pattern", .other "default_parameter",
   .other "typed_default_parameter", .other "list_splat_pattern",
   .other "dictionary_splat_pattern", .asPattern, .other "_expression_within_for_in_clause",
   .other "expression", .other "primary_expression", .other "not_operator",
   .other "boolean_operator"]

/-- Entries 192 to 207 of `kinds`. -/
def kinds12 : List Kind :=
  [.other "binary_operator", .other "unary_operator", .other "not in", .other "is not",
   .other "comparison_operator", .lambda, .lambda, .other "assignment",
   .other "augmented_assignment", .other "pattern_list", .other "_right_hand_side", .yield,
   .attribute, .other "subscript", .other "slice", .call]

/-- Entries 208 to 223 of `kinds`. -/
def kinds13 : List Kind :=
  [.other "typed_parameter", .other "type", .other "splat_type", .other "generic_type",
   .other "union_type", .other "constrained_type", .other "member_type", .keywordArgument,
   .other "list", .other "set", .other "tuple", .other "dictionary", .other "pair",
   .other "list_comprehension", .other "dictionary_comprehension", .other "set_comprehension"]

/-- Entries 224 to 239 of `kinds`. -/
def kinds14 : List Kind :=
  [.other "generator_expression", .other "_comprehension_clauses", .parenthesizedExpression,
   .other "_collection_elements", .other "for_in_clause", .other "if_clause",
   .other "conditional_expression", .other "concatenated_string", .string,
   .other "string_content", .interpolation, .other "_f_expression", .other "_not_escape_sequence",
   .other "format_specifier", .other "await", .other "positional_separator"]

/-- Entries 240 to 255 of `kinds`. -/
def kinds15 : List Kind :=
  [.other "keyword_separator", .other "module_repeat1", .other "_simple_statements_repeat1",
   .other "import_prefix_repeat1", .other "_import_list_repeat1",
   .other "print_statement_repeat1", .other "assert_statement_repeat1",
   .other "if_statement_repeat1", .other "match_statement_repeat1", .other "_match_block_repeat1",
   .other "case_clause_repeat1", .other "try_statement_repeat1", .other "try_statement_repeat2",
   .other "with_clause_repeat1", .other "global_statement_repeat1",
   .other "type_parameter_repeat1"]

/-- Entries 256 to 271 of `kinds`. -/
def kinds16 : List Kind :=
  [.other "argument_list_repeat1", .other "decorated_definition_repeat1",
   .other "dotted_name_repeat1", .other "union_pattern_repeat1", .other "dict_pattern_repeat1",
   .other "_parameters_repeat1", .other "_patterns_repeat1", .other "comparison_operator_repeat1",
   .other "subscript_repeat1", .other "dictionary_repeat1",
   .other "_comprehension_clauses_repeat1", .other "_collection_elements_repeat1",
   .other "for_in_clause_repeat1", .other "concatenated_string_repeat1", .other "string_repeat1",
   .other "string_content_repeat1"]

/-- Entries 272 to 272 of `kinds`. -/
def kinds17 : List Kind :=
  [.other "format_specifier_repeat1"]

/-- The kind of each symbol, sixteen to a shelf. -/
def kinds : List (List Kind) :=
  [kinds0, kinds1, kinds2, kinds3, kinds4, kinds5, kinds6, kinds7, kinds8, kinds9, kinds10,
   kinds11, kinds12, kinds13, kinds14, kinds15, kinds16, kinds17]

/-- One bit per symbol: whether a tree shows it as a node. -/
def visible : Nat :=
  0x1e7f5fffffbffc7f0f7dfffffff7fefef9d1ff7fffffffffffffffffffffe

/-- One bit per symbol: whether its node is named rather than a piece of punctuation. -/
def named : Nat :=
  0x1e7f5fffffbf3c7f0f7dfffffff7fefef9d1f730000000000000000000002

end CellScript.Python.Grammar
