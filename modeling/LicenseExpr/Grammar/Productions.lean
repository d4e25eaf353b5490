import LicenseExpr.Grammar.Fault
import LicenseExpr.Tree

/-!
# The grammar of license expressions

From loosest to tightest:

* an or-expression is and-expressions joined by OR, folded to the left;
* an and-expression is with-expressions joined by AND, folded to the left;
* a with-expression is a primary, perhaps with WITH and one more primary;
* a primary is an identifier or an or-expression in parentheses.

Every production reads as many tokens as it can from the front of its input.
It is given the number of parentheses around the input and the index of the
input's first token, and leaves strictly less than it was given.
-/

namespace LicenseExpr.Grammar

/-- What a production read and what it left: less than `bound` tokens. -/
structure Parsed (bound : Nat) where
  tree : Tree
  /-- The index of the first token that is left. -/
  index : Nat
  rest : List Token
  length_rest : rest.length < bound

mutual

/-- An identifier, or an or-expression in parentheses. -/
def primary (limit : Int) (depth index : Nat) (input : List Token) :
    Except ParseFailure (Parsed input.length) :=
  match input with
  | [] => .error (.raised ⟨index, .endOfExpression⟩)
  | .identifier text :: rest => .ok ⟨.identifier text, index + 1, rest, Nat.lt_succ_self _⟩
  | .closeParen :: _ => .error (.raised ⟨index, .unmatchedParen⟩)
  | .operator operator :: _ => .error (.raised ⟨index, .misplacedOperator operator⟩)
  | .openParen :: inner =>
      if limit ≤ depth then .error (.raised ⟨index, .nestedTooDeep limit⟩)
      else
        match orExpr limit (depth + 1) (index + 1) inner with
        | .error failure => .error failure
        | .ok parsed =>
            match remaining : parsed.rest with
            | .closeParen :: rest =>
                .ok ⟨parsed.tree, parsed.index + 1, rest, by
                  have shorter := parsed.length_rest
                  simp only [remaining, List.length_cons] at shorter ⊢
                  omega⟩
            | [] => .error (.raised ⟨index, .unclosedParen⟩)
            | found :: _ => .error (.raised ⟨parsed.index, .notClosing found⟩)
termination_by (input.length, 0)

/-- A primary, perhaps with WITH and one more primary. -/
def withExpr (limit : Int) (depth index : Nat) (input : List Token) :
    Except ParseFailure (Parsed input.length) :=
  match primary limit depth index input with
  | .error failure => .error failure
  | .ok license =>
      match remaining : license.rest with
      | .operator .exception :: rest =>
          have shorter : rest.length < input.length := by
            have shorter := license.length_rest
            simp only [remaining, List.length_cons] at shorter
            omega
          match primary limit depth (license.index + 1) rest with
          | .error failure => .error failure
          | .ok exception =>
              match exception.rest with
              | .operator .exception :: _ =>
                  .error (.raised ⟨exception.index, .chainedException⟩)
              | _ =>
                  .ok ⟨.compound .exception license.tree exception.tree, exception.index,
                    exception.rest, Nat.lt_trans exception.length_rest shorter⟩
      | _ => .ok license
termination_by (input.length, 1)

/-- An and-expression: a with-expression, and the rest of the chain. -/
def andExpr (limit : Int) (depth index : Nat) (input : List Token) :
    Except ParseFailure (Parsed input.length) :=
  match withExpr limit depth index input with
  | .error failure => .error failure
  | .ok parsed =>
      have _ := parsed.length_rest
      andChain limit depth parsed.tree parsed.index parsed.rest _ parsed.length_rest
termination_by (input.length, 2)

/-- The rest of an and-expression after the operands read so far. -/
def andChain (limit : Int) (depth : Nat) (left : Tree) (index : Nat) (input : List Token)
    (bound : Nat) (shorter : input.length < bound) : Except ParseFailure (Parsed bound) :=
  match input, shorter with
  | .operator .and :: rest, shorter =>
      match withExpr limit depth (index + 1) rest with
      | .error failure => .error failure
      | .ok parsed =>
          have _ := parsed.length_rest
          andChain limit depth (.compound .and left parsed.tree) parsed.index parsed.rest bound
            (Nat.lt_trans parsed.length_rest (Nat.lt_of_succ_lt shorter))
  | input, shorter => .ok ⟨left, index, input, shorter⟩
termination_by (input.length, 0)

/-- An or-expression: an and-expression, and the rest of the chain. -/
def orExpr (limit : Int) (depth index : Nat) (input : List Token) :
    Except ParseFailure (Parsed input.length) :=
  match andExpr limit depth index input with
  | .error failure => .error failure
  | .ok parsed =>
      have _ := parsed.length_rest
      orChain limit depth parsed.tree parsed.index parsed.rest _ parsed.length_rest
termination_by (input.length, 3)

/-- The rest of an or-expression after the operands read so far. -/
def orChain (limit : Int) (depth : Nat) (left : Tree) (index : Nat) (input : List Token)
    (bound : Nat) (shorter : input.length < bound) : Except ParseFailure (Parsed bound) :=
  match input, shorter with
  | .operator .or :: rest, shorter =>
      match andExpr limit depth (index + 1) rest with
      | .error failure => .error failure
      | .ok parsed =>
          have _ := parsed.length_rest
          orChain limit depth (.compound .or left parsed.tree) parsed.index parsed.rest bound
            (Nat.lt_trans parsed.length_rest (Nat.lt_of_succ_lt shorter))
  | input, shorter => .ok ⟨left, index, input, shorter⟩
termination_by (input.length, 0)

end

end LicenseExpr.Grammar
