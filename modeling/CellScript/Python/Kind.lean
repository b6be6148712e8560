set_option autoImplicit false

/-! # Kinds of syntax nodes

`Kind` names what a node of a Python syntax tree is. The kinds that cells depend on have a
constructor each; every other phrase or token is `other`, with its name. `Kind.name` gives the name
that messages show. -/

namespace CellScript.Python

/-- What a syntax node is. A keyword token shares the kind of the phrase it is named after. -/
inductive Kind where
  | module
  | withStatement
  | withClause
  | withItem
  | asPattern
  | parenthesizedExpression
  | call
  | attribute
  | identifier
  | keywordArgument
  | string
  | interpolation
  | stringStart
  | stringEnd
  | comment
  | block
  | colon
  | expressionStatement
  | printStatement
  | execStatement
  | returnStatement
  | yield
  | breakStatement
  | continueStatement
  | functionDefinition
  | lambda
  | classDefinition
  | forStatement
  | whileStatement
  | error
  | other (name : String)
deriving DecidableEq, Repr, Inhabited

/-- The name of a kind, as messages show it. -/
def Kind.name : Kind → String
  | .module => "module"
  | .withStatement => "with_statement"
  | .withClause => "with_clause"
  | .withItem => "with_item"
  | .asPattern => "as_pattern"
  | .parenthesizedExpression => "parenthesized_expression"
  | .call => "call"
  | .attribute => "attribute"
  | .identifier => "identifier"
  | .keywordArgument => "keyword_argument"
  | .string => "string"
  | .interpolation => "interpolation"
  | .stringStart => "string_start"
  | .stringEnd => "string_end"
  | .comment => "comment"
  | .block => "block"
  | .colon => ":"
  | .expressionStatement => "expression_statement"
  | .printStatement => "print_statement"
  | .execStatement => "exec_statement"
  | .returnStatement => "return_statement"
  | .yield => "yield"
  | .breakStatement => "break_statement"
  | .continueStatement => "continue_statement"
  | .functionDefinition => "function_definition"
  | .lambda => "lambda"
  | .classDefinition => "class_definition"
  | .forStatement => "for_statement"
  | .whileStatement => "while_statement"
  | .error => "ERROR"
  | .other name => name

/-- The part a node plays in the phrase around it, as far as cells depend on it. -/
inductive Role where
  | body
  | value
  | function
  | arguments
  | object
  | attribute
  | name
deriving DecidableEq, Repr, Inhabited

end CellScript.Python
