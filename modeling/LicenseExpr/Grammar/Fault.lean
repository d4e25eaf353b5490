import LicenseExpr.Text.Numeral
import LicenseExpr.Token

/-!
# Syntax errors

A syntax error is a fault at a token, counted from zero. An expression that
ends too early is at fault at its number of tokens.

The text of an error is written when the error is raised. A limit of the nesting
that is too far below zero to be written takes the place of the error.
-/

namespace LicenseExpr

/-- What is wrong with an expression. -/
inductive Fault where
  | endOfExpression
  | nestedTooDeep (limit : Int)
  | unclosedParen
  | notClosing (found : Token)
  | unmatchedParen
  | misplacedOperator (operator : Operator)
  | chainedException
  | afterExpression (found : Token)
deriving DecidableEq

namespace Fault

def detail : Fault → String
  | .endOfExpression => "unexpected end of expression, expected identifier or \"(\""
  | .nestedTooDeep limit => "parentheses nested deeper than " ++ Text.integerText limit
  | .unclosedParen => "unclosed \"(\""
  | .notClosing found => "expected \")\", got " ++ found.description
  | .unmatchedParen => "unmatched \")\""
  | .misplacedOperator operator =>
      "unexpected operator " ++ (Token.operator operator).description ++
        ", expected identifier or \"(\""
  | .chainedException => "\"WITH\" cannot be chained"
  | .afterExpression found => "unexpected " ++ found.description ++ " after complete expression"

/-- Whether the detail can be written: the limit in it may have too many digits. -/
def isWritable : Fault → Bool
  | .nestedTooDeep limit => Text.hasWritableLength limit
  | _ => true

theorem eq_nestedTooDeep_of_isWritable {fault : Fault} (unwritable : fault.isWritable = false) :
    ∃ limit, fault = .nestedTooDeep limit ∧ Text.hasWritableLength limit = false := by
  cases fault with
  | nestedTooDeep limit => exact ⟨limit, rfl, unwritable⟩
  | _ => cases unwritable

end Fault

/-- A fault with the index of the token where it shows. -/
structure SyntaxError where
  index : Nat
  fault : Fault
deriving DecidableEq

namespace SyntaxError

def message (error : SyntaxError) (expression : String) : String :=
  "license expression syntax error at token " ++ Text.integerText error.index ++ ": " ++
    error.fault.detail ++ ": " ++ Text.quote expression

end SyntaxError

/-- How parsing fails. -/
inductive ParseFailure where
  | syntaxError (error : SyntaxError)
  /-- The limit that the error would have to show has too many digits. -/
  | integerTooLong
deriving DecidableEq

namespace ParseFailure

/-- What comes of raising a syntax error. -/
def raised (error : SyntaxError) : ParseFailure :=
  if error.fault.isWritable then .syntaxError error else .integerTooLong

variable {error other : SyntaxError}

theorem raised_eq_syntaxError_iff :
    raised error = .syntaxError other ↔ error = other ∧ error.fault.isWritable = true := by
  cases writable : error.fault.isWritable <;> simp [raised, writable]

theorem raised_eq_integerTooLong_iff :
    raised error = .integerTooLong ↔ error.fault.isWritable = false := by
  cases writable : error.fault.isWritable <;> simp [raised, writable]

end ParseFailure

end LicenseExpr
