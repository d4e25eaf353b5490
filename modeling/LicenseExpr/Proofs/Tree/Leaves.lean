import LicenseExpr.Tree.Leaves

/-!
# The texts of a tree

The traversal with a list of pending trees meets the leaves in the order of
the plain recursion: those of the left operand, then those of the right one,
unless that is an exception to be skipped.
-/

namespace LicenseExpr

namespace Tree

/-- The texts of the leaves from left to right. -/
def texts : Tree → List String
  | .identifier text => [text]
  | .compound _ left right => left.texts ++ right.texts

/-- The texts of the leaves that a traversal meets, from left to right. -/
def textsMet (skipExceptions : Bool) : Tree → List String
  | .identifier text => [text]
  | .compound operator left right =>
      if skipExceptions && operator == .exception then left.textsMet skipExceptions
      else left.textsMet skipExceptions ++ right.textsMet skipExceptions

/-- What is still to be found are the texts of the pending trees, one tree after the other. -/
theorem collect_eq (skipExceptions : Bool) (found : List String) (pending : List Tree) :
    collect skipExceptions found pending =
      (pending.flatMap (textsMet skipExceptions)).reverse ++ found := by
  fun_induction collect skipExceptions found pending with
  | case1 found => rfl
  | case2 found text rest ih => simp [ih, textsMet]
  | case3 found operator left right rest skips ih => simp [ih, textsMet, skips]
  | case4 found operator left right rest meets ih => simp [ih, textsMet, meets]

theorem leaves_eq (skipExceptions : Bool) (tree : Tree) :
    tree.leaves skipExceptions = tree.textsMet skipExceptions := by
  simp [leaves, collect_eq]

theorem textsMet_false (tree : Tree) : tree.textsMet false = tree.texts := by
  induction tree with
  | identifier text => rfl
  | compound operator left right leftIH rightIH => simp [textsMet, texts, leftIH, rightIH]

theorem leaves_false (tree : Tree) : tree.leaves false = tree.texts := by
  rw [leaves_eq, textsMet_false]

theorem textsMet_subset_texts (skipExceptions : Bool) (tree : Tree) :
    tree.textsMet skipExceptions ⊆ tree.texts := by
  induction tree with
  | identifier text => exact List.Subset.refl [text]
  | compound operator left right leftIH rightIH =>
      rw [textsMet, texts]
      split
      · exact List.subset_append_of_subset_left _ leftIH
      · exact List.append_subset.mpr ⟨List.subset_append_of_subset_left _ leftIH,
          List.subset_append_of_subset_right _ rightIH⟩

theorem mem_texts_of_mem_leaves {skipExceptions : Bool} {tree : Tree} {leaf : String}
    (member : leaf ∈ tree.leaves skipExceptions) : leaf ∈ tree.texts := by
  rw [leaves_eq] at member
  exact textsMet_subset_texts skipExceptions tree member

end Tree

theorem Expression.identifiers_valid (tree : Tree) :
    (Expression.valid tree).identifiers = tree.texts :=
  tree.leaves_false

end LicenseExpr
