import LicenseExpr.Tree
import LicenseExpr.Text.CodePointOrder

/-!
# The identifiers of an expression

The leaves of a tree in the order of the text, and the set of those that name
a license: what stands to the right of an exception operator names none.
-/

namespace LicenseExpr

namespace Tree

/-- Collects the leaves of the pending trees from left to right, last first. With
`skipExceptions` the right operands of exception operators are left out. -/
def collect (skipExceptions : Bool) (found : List String) (pending : List Tree) : List String :=
  match pending with
  | [] => found
  | .identifier text :: rest => collect skipExceptions (text :: found) rest
  | .compound operator left right :: rest =>
      if skipExceptions && operator == .exception then
        collect skipExceptions found (left :: rest)
      else collect skipExceptions found (left :: right :: rest)
termination_by totalSize pending
decreasing_by
  all_goals simp only [totalSize, size]
  all_goals omega

def leaves (skipExceptions : Bool) (tree : Tree) : List String :=
  (collect skipExceptions [] [tree]).reverse

end Tree

namespace Expression

/-- All identifiers in the order of the text, repetitions included. -/
def identifiers : Expression → List String
  | .invalid => []
  | .valid tree => tree.leaves false

/-- The identifiers that name a license, as a set in code point order. -/
def licenseIds : Expression → List String
  | .invalid => []
  | .valid tree => Text.sortedDistinct (tree.leaves true)

end Expression

end LicenseExpr
