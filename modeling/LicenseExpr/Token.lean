import LicenseExpr.Operator
import LicenseExpr.Text.Quoted

/-!
# Tokens

A license expression consists of identifiers, operators and parentheses.
-/

namespace LicenseExpr

inductive Token where
  | identifier (text : String)
  | operator (connective : Operator)
  | openParen
  | closeParen
deriving DecidableEq

namespace Token

/-- The characters that a token stands for in an expression. -/
def spelling : Token → List Char
  | .identifier text => text.toList
  | .operator connective => connective.keyword.toList
  | .openParen => ['(']
  | .closeParen => [')']

def description : Token → String
  | .identifier text => "identifier " ++ Text.quote text
  | .operator connective => Text.quote connective.keyword
  | .openParen => Text.quote "("
  | .closeParen => Text.quote ")"

end Token

end LicenseExpr
