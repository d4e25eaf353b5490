import LicenseExpr.Proofs.Tree.Leaves
import LicenseExpr.Tree.Written

/-!
# Traversals by structure

The canonical form, the detailed form and the identifiers of an expression are
made with lists of pending work, since trees are deep.  What they give is what
the recursions over the tree give: each is determined by its value at a leaf and
by how an operator puts the values of its operands together.
-/

namespace LicenseExpr.Expression

theorem render_valid (tree : Tree) : (valid tree).render = tree.written .canonical :=
  tree.write_eq .canonical

theorem details_valid (tree : Tree) : (valid tree).details = tree.written .detailed :=
  tree.write_eq .detailed

theorem render_compound (operator : Operator) (left right : Tree) :
    (valid (.compound operator left right)).render =
      operator.keyword ++ "(" ++ (valid left).render ++ ", " ++ (valid right).render ++ ")" := by
  rw [render_valid, render_valid, render_valid, Tree.written]
  rfl

theorem details_compound (operator : Operator) (left right : Tree) :
    (valid (.compound operator left right)).details =
      "Compound(operator=<Operator." ++ operator.keyword ++ ": '" ++ operator.keyword ++
        "'>, left=" ++ (valid left).details ++ ", right=" ++ (valid right).details ++ ")" := by
  rw [details_valid, details_valid, details_valid, Tree.written]
  rfl

theorem identifiers_compound (operator : Operator) (left right : Tree) :
    (valid (.compound operator left right)).identifiers =
      (valid left).identifiers ++ (valid right).identifiers := by
  rw [identifiers_valid, identifiers_valid, identifiers_valid, Tree.texts]

theorem render_identifier (text : String) : (valid (.identifier text)).render = text := by
  rw [render_valid, Tree.written]
  rfl

theorem details_identifier (text : String) :
    (valid (.identifier text)).details = "Identifier(text=" ++ Text.quote text ++ ")" := by
  rw [details_valid, Tree.written]
  rfl

theorem identifiers_identifier (text : String) :
    (valid (.identifier text)).identifiers = [text] := by
  rw [identifiers_valid, Tree.texts]

/-- The canonical form, the detailed form and the identifiers of an expression are those of the
recursions over its tree.  An operator stands around the forms of its operands and appends their
identifiers; a leaf gives its text, in quotes in the detailed form; and what is not valid has
the forms `(INVALID)` and `Invalid()` and no identifiers. -/
theorem traversals_follow_structure :
    (∀ tree : Tree, (valid tree).render = tree.written .canonical ∧
      (valid tree).details = tree.written .detailed ∧ (valid tree).identifiers = tree.texts) ∧
    (∀ (operator : Operator) (left right : Tree),
      (valid (.compound operator left right)).render =
        operator.keyword ++ "(" ++ (valid left).render ++ ", " ++ (valid right).render ++ ")" ∧
      (valid (.compound operator left right)).details =
        "Compound(operator=<Operator." ++ operator.keyword ++ ": '" ++ operator.keyword ++
          "'>, left=" ++ (valid left).details ++ ", right=" ++ (valid right).details ++ ")" ∧
      (valid (.compound operator left right)).identifiers =
        (valid left).identifiers ++ (valid right).identifiers) ∧
    (∀ text : String, (valid (.identifier text)).render = text ∧
      (valid (.identifier text)).details = "Identifier(text=" ++ Text.quote text ++ ")" ∧
      (valid (.identifier text)).identifiers = [text]) ∧
    invalid.render = "(INVALID)" ∧ invalid.details = "Invalid()" ∧ invalid.identifiers = [] := by
  refine ⟨fun tree => ?_, fun operator left right => ?_, fun text => ?_, rfl, rfl, rfl⟩
  · exact ⟨render_valid tree, details_valid tree, identifiers_valid tree⟩
  · exact ⟨render_compound operator left right, details_compound operator left right,
      identifiers_compound operator left right⟩
  · exact ⟨render_identifier text, details_identifier text, identifiers_identifier text⟩

end LicenseExpr.Expression
