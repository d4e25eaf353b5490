import LicenseExpr.Operator

/-!
# Expression trees

An identifier is a leaf and an operator has two operands. What a text stands
for is a tree, or nothing valid.
-/

namespace LicenseExpr

/-- A license expression without its parentheses. -/
inductive Tree where
  | identifier (text : String)
  | compound (operator : Operator) (left right : Tree)
deriving DecidableEq

/-- What a text stands for. -/
inductive Expression where
  | invalid
  | valid (tree : Tree)
deriving DecidableEq

namespace Tree

def size : Tree → Nat
  | .identifier _ => 1
  | .compound _ left right => left.size + right.size + 1

theorem size_pos (tree : Tree) : 0 < tree.size := by
  cases tree <;> simp [size]

def totalSize : List Tree → Nat
  | [] => 0
  | tree :: trees => tree.size + totalSize trees

end Tree

namespace Expression

def isInvalid : Expression → Bool
  | .invalid => true
  | .valid _ => false

end Expression

end LicenseExpr
