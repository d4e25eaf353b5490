/-!
# Operators

The three binary operators of license expressions, loosest first.
-/

namespace LicenseExpr

/-- A choice between licenses, a conjunction of them, or a license with an exception. -/
inductive Operator where
  | or
  | and
  | exception
deriving DecidableEq

namespace Operator

def all : List Operator :=
  [.or, .and, .exception]

def keyword : Operator → String
  | .or => "OR"
  | .and => "AND"
  | .exception => "WITH"

def ofKeyword? (word : List Char) : Option Operator :=
  all.find? fun operator => operator.keyword.toList = word

theorem mem_all (operator : Operator) : operator ∈ all := by
  cases operator <;> simp [all]

theorem keyword_inj {first second : Operator} :
    first.keyword = second.keyword ↔ first = second := by
  cases first <;> cases second <;> simp [keyword]

theorem ofKeyword?_eq_some_iff {word : List Char} {operator : Operator} :
    ofKeyword? word = some operator ↔ word = operator.keyword.toList := by
  constructor
  · intro found
    have same := List.find?_some found
    exact (of_decide_eq_true same).symm
  · rintro rfl
    cases operator <;> decide

end Operator

end LicenseExpr
