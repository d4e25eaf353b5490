import LicenseExpr.Proofs.Tree.Leaves
import LicenseExpr.Proofs.Tree.Outline

/-!
# Trees read back from their outlines

The view of an outline lists its labels from top to bottom, each with its depth.
A label does not tell whether it belongs to an operator or to an identifier that
is spelled like one, but the depths do: the operands of an operator stand one
level below it, and what follows a tree stands no deeper than its root.  So a
view determines the tree up to the characters that labels do not show.
-/

namespace LicenseExpr

/-- The text without the characters that would move the cursor, as labels show it. -/
def Text.withoutCursorMoves (text : String) : String :=
  String.ofList (withoutControls text.toList)

namespace Tree

variable {tree first second : Tree} {change other : String → String} {depth : Nat}
  {rest otherRest : List (Nat × List Char)}

/-- The tree with all its identifiers changed. -/
def mapTexts (change : String → String) : Tree → Tree
  | .identifier text => .identifier (change text)
  | .compound operator left right =>
      .compound operator (left.mapTexts change) (right.mapTexts change)

/-- The operators and identifiers of the tree from the root to the leaves and from left to right,
each with its depth. -/
def preorder (depth : Nat) : Tree → List (Nat × List Char)
  | .identifier text => [(depth, Text.withoutControls text.toList)]
  | .compound operator left right =>
      (depth, operator.keyword.toList) :: (left.preorder (depth + 1) ++ right.preorder (depth + 1))

theorem mapTexts_congr (same : ∀ text ∈ tree.texts, change text = other text) :
    tree.mapTexts change = tree.mapTexts other := by
  induction tree with
  | identifier text => rw [mapTexts, mapTexts, same text (List.mem_singleton_self text)]
  | compound operator left right leftIH rightIH =>
      obtain ⟨leftSame, rightSame⟩ := List.forall_mem_append.mp same
      rw [mapTexts, mapTexts, leftIH leftSame, rightIH rightSame]

/-- There is one operator less than there are identifiers. -/
theorem length_preorder (tree : Tree) (depth : Nat) :
    (tree.preorder depth).length + 1 = 2 * tree.texts.length := by
  induction tree generalizing depth with
  | identifier text => rfl
  | compound operator left right leftIH rightIH =>
      have leftLength := leftIH (depth + 1)
      have rightLength := rightIH (depth + 1)
      simp only [preorder, texts, List.length_cons, List.length_append]
      omega

/-! ## Reading a view back -/

/-- Nothing, or entries of which the first stands no deeper than the given depth. -/
def EndsAt (depth : Nat) (rest : List (Nat × List Char)) : Prop :=
  ∀ entry ∈ rest.head?, entry.1 ≤ depth

theorem endsAt_nil : EndsAt depth [] := by
  simp [EndsAt]

theorem EndsAt.deeper (ends : EndsAt depth rest) : EndsAt (depth + 1) rest :=
  fun entry isHead => Nat.le_succ_of_le (ends entry isHead)

theorem exists_preorder_eq_cons (tree : Tree) (depth : Nat) :
    ∃ label behind, tree.preorder depth = (depth, label) :: behind := by
  cases tree with
  | identifier text => exact ⟨_, _, rfl⟩
  | compound operator left right => exact ⟨_, _, rfl⟩

theorem endsAt_preorder_append (tree : Tree) : EndsAt depth (tree.preorder depth ++ rest) := by
  obtain ⟨label, behind, entries⟩ := tree.exists_preorder_eq_cons depth
  simp [EndsAt, entries]

/-- What stands behind an operator is deeper than what may stand behind an identifier. -/
theorem preorder_identifier_append_ne {text : String} {operator : Operator} {left right : Tree}
    (ends : EndsAt depth rest) :
    (identifier text).preorder depth ++ rest ≠
      (compound operator left right).preorder depth ++ otherRest := by
  intro same
  obtain ⟨label, behind, entries⟩ := left.exists_preorder_eq_cons (depth + 1)
  obtain ⟨-, same⟩ := List.cons.inj same
  have below := ends (depth + 1, label) (by simp_all)
  omega

/-- In front of entries that stand no deeper, the entries of a tree determine the tree up to the
characters that they do not show, and they determine where they end. -/
theorem preorder_append_inj (ends : EndsAt depth rest) (otherEnds : EndsAt depth otherRest)
    (same : first.preorder depth ++ rest = second.preorder depth ++ otherRest) :
    first.mapTexts Text.withoutCursorMoves = second.mapTexts Text.withoutCursorMoves ∧
      rest = otherRest := by
  induction first generalizing second depth rest otherRest with
  | identifier text =>
      cases second with
      | identifier otherText =>
          obtain ⟨sameEntry, sameRest⟩ := List.cons.inj same
          obtain ⟨-, sameLabel⟩ := Prod.mk.inj sameEntry
          refine ⟨?_, sameRest⟩
          rw [mapTexts, mapTexts, Text.withoutCursorMoves, Text.withoutCursorMoves, sameLabel]
      | compound operator left right => exact absurd same (preorder_identifier_append_ne ends)
  | compound operator left right leftIH rightIH =>
      cases second with
      | identifier text => exact absurd same.symm (preorder_identifier_append_ne otherEnds)
      | compound otherOperator otherLeft otherRight =>
          simp only [preorder, List.cons_append, List.append_assoc] at same
          obtain ⟨sameEntry, sameOperands⟩ := List.cons.inj same
          obtain ⟨-, sameKeyword⟩ := Prod.mk.inj sameEntry
          obtain rfl := Operator.keyword_inj.mp (String.toList_inj.mp sameKeyword)
          obtain ⟨sameLeft, sameRight⟩ := leftIH (endsAt_preorder_append right)
            (endsAt_preorder_append otherRight) sameOperands
          obtain ⟨sameRight, sameRest⟩ := rightIH ends.deeper otherEnds.deeper sameRight
          exact ⟨by rw [mapTexts, mapTexts, sameLeft, sameRight], sameRest⟩

end Tree

namespace Outline

open LicenseExpr.Text LicenseExpr.Tree

theorem label_withoutCursorMoves (text : String) :
    label (.identifier (withoutCursorMoves text)) = label (.identifier text) := by
  simp [label, withoutCursorMoves, withoutControls]

/-- Labels show no more of an identifier than is left without cursor moves. -/
theorem outline_mapTexts (tree : Tree) :
    (tree.mapTexts withoutCursorMoves).outline = tree.outline := by
  induction tree with
  | identifier text => rw [mapTexts, outline, outline, label_withoutCursorMoves]
  | compound operator left right leftIH rightIH =>
      rw [mapTexts, outline, outline, leftIH, rightIH, label, label]

theorem view_outline (tree : Tree) (depth : Nat) :
    view depth tree.outline = tree.preorder depth := by
  induction tree generalizing depth with
  | identifier text => rfl
  | compound operator left right leftIH rightIH =>
      simp [outline, view, viewAll, preorder, leftIH, rightIH, label]

theorem view_outline_eq_iff {first second : Tree} :
    view 0 first.outline = view 0 second.outline ↔
      first.mapTexts withoutCursorMoves = second.mapTexts withoutCursorMoves := by
  constructor
  · intro same
    rw [view_outline, view_outline] at same
    have sameEntries : first.preorder 0 ++ [] = second.preorder 0 ++ [] := by
      rw [same]
    exact (preorder_append_inj endsAt_nil endsAt_nil sameEntries).1
  · intro same
    rw [← outline_mapTexts first, ← outline_mapTexts second, same]

/-- The outline of a tree has a node for every operator, above the outlines of its two operands,
and a node without children for every identifier.  Its view is that of the recursion over the
tree, and its entries are one less than twice the identifiers.  Two trees have the same view
exactly if they differ in nothing but characters that labels do not show. -/
theorem outline_mirrors_tree :
    (∀ (operator : Operator) (left right : Tree),
      ofExpression (.valid (.compound operator left right)) =
        .node operator.keyword.toList
          [ofExpression (.valid left), ofExpression (.valid right)]) ∧
    (∀ text : String,
      ofExpression (.valid (.identifier text)) = .node (withoutControls text.toList) []) ∧
    (∀ tree : Tree, view 0 (ofExpression (.valid tree)) = tree.preorder 0 ∧
      (view 0 (ofExpression (.valid tree))).length + 1 = 2 * tree.texts.length) ∧
    ∀ first second : Tree,
      view 0 (ofExpression (.valid first)) = view 0 (ofExpression (.valid second)) ↔
        first.mapTexts withoutCursorMoves = second.mapTexts withoutCursorMoves := by
  simp only [ofExpression, ofTree_eq]
  refine ⟨fun operator left right => rfl, fun text => rfl, fun tree => ?_, ?_⟩
  · rw [view_outline]
    exact ⟨rfl, tree.length_preorder 0⟩
  · exact fun first second => view_outline_eq_iff

/-- An identifier that is spelled like an operator is told from it. -/
example : view 0 (ofExpression (.valid (.compound .or (.identifier "OR") (.identifier "a\x07")))) =
    [(0, "OR".toList), (1, "OR".toList), (1, "a".toList)] := by
  cbv

end Outline

end LicenseExpr
