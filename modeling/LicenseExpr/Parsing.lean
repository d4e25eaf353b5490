import LicenseExpr.Grammar.Productions
import LicenseExpr.Token.Lexer

/-!
# Parsing license expressions

A text is cut into tokens, and the whole list of tokens must be one
or-expression. The depth of parentheses is limited by an option, and by a cap
that no option can lift.
-/

namespace LicenseExpr

structure Options where
  /-- How deep parentheses may be nested. -/
  maxDepth : Int := 64
  /-- Whether keywords are accepted in any case. -/
  anyCase : Bool := false
deriving DecidableEq

/-- The nesting that no option can exceed. -/
def depthCap : Int := 100

namespace Grammar

/-- The tree of a list of tokens that is one or-expression. -/
def parse (maxDepth : Int) (tokens : List Token) : Except ParseFailure Tree :=
  match orExpr (min maxDepth depthCap) 0 0 tokens with
  | .error failure => .error failure
  | .ok parsed =>
      match parsed.rest with
      | [] => .ok parsed.tree
      | .closeParen :: _ => .error (.raised ⟨parsed.index, .unmatchedParen⟩)
      | found :: _ => .error (.raised ⟨parsed.index, .afterExpression found⟩)

end Grammar

/-- The tree of a text, or what is wrong with the text. -/
def parse? (options : Options) (text : String) : Except ParseFailure Tree :=
  Grammar.parse options.maxDepth (Token.tokenize options.anyCase text)

/-- What a text stands for. A text with a syntax error stands for the invalid expression, but
not if the error cannot be written. -/
def parse (options : Options) (text : String) : Except Text.IntegerTooLong Expression :=
  match parse? options text with
  | .ok tree => .ok (.valid tree)
  | .error (.syntaxError _) => .ok .invalid
  | .error .integerTooLong => .error ⟨⟩

section Results

variable {options : Options} {text : String}

theorem parse_eq_valid_iff {tree : Tree} :
    parse options text = .ok (.valid tree) ↔ parse? options text = .ok tree := by
  unfold parse
  split <;> simp_all

theorem parse_eq_invalid_iff :
    parse options text = .ok .invalid ↔
      ∃ error, parse? options text = .error (.syntaxError error) := by
  unfold parse
  split <;> simp_all

theorem parse_eq_error_iff {failure : Text.IntegerTooLong} :
    parse options text = .error failure ↔ parse? options text = .error .integerTooLong := by
  unfold parse
  split <;> simp_all

end Results

end LicenseExpr
