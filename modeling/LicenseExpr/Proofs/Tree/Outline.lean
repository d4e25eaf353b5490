import LicenseExpr.Tree.Outline

/-!
# The outline of a tree

Growing an outline by pending subtrees attaches one child after the other, each
at the place of its parent.  What has been attached at a place stands there when
its own children are attached, so growing by a subtree comes to grafting the
whole outline of the subtree at once.  Hence the outline of a tree is the one
of the plain recursion, and so are the lines that it is drawn in.
-/

namespace LicenseExpr

/-- An operator above the outlines of its operands, or an identifier alone. -/
def Tree.outline : Tree → Outline
  | .identifier text => .node (Outline.label (.identifier text)) []
  | .compound operator left right =>
      .node (Outline.label (.compound operator left right)) [left.outline, right.outline]

namespace Outline

variable {outline branch found : Outline} {own : List Char} {children : List Outline}
  {place : List Nat}

/-- The outline with another one as the last child at a place. -/
def graft (branch : Outline) : (place : List Nat) → Outline → Outline
  | [], .node own children => .node own (children ++ [branch])
  | index :: place, .node own children => .node own (children.modify index (graft branch place))

theorem attach_eq_graft (label : List Char) (place : List Nat) (outline : Outline) :
    outline.attach label place = graft (.node label []) place outline := by
  induction place generalizing outline with
  | nil =>
      cases outline
      rfl
  | cons index place ih =>
      cases outline
      rw [attach, graft, funext ih]

theorem nextPlace_nil : (node own children).nextPlace [] = [children.length] := rfl

theorem nextPlace_cons {index : Nat} {child : Outline} (stands : children[index]? = some child) :
    (node own children).nextPlace (index :: place) = index :: child.nextPlace place := by
  simp [nextPlace, at?, stands]

theorem at?_cons {index : Nat} (stands : (node own children).at? (index :: place) = some found) :
    ∃ child, children[index]? = some child ∧ child.at? place = some found := by
  rw [at?] at stands
  split at stands
  case h_1 child childStands => exact ⟨child, childStands, stands⟩
  case h_2 => cases stands

/-- What is grafted at a place stands where the next child is due. -/
theorem at?_graft (stands : outline.at? place = some found) :
    (graft branch place outline).at? (outline.nextPlace place) = some branch := by
  induction place generalizing outline with
  | nil =>
      obtain ⟨own, children⟩ := outline
      simp [graft, nextPlace_nil, at?]
  | cons index place ih =>
      obtain ⟨own, children⟩ := outline
      obtain ⟨child, childStands, stands⟩ := at?_cons stands
      simp [graft, nextPlace_cons childStands, at?, childStands, ih stands]

theorem modify_congr {index : Nat} {child : Outline} {first second : Outline → Outline}
    (stands : children[index]? = some child) (same : first child = second child) :
    children.modify index first = children.modify index second := by
  apply List.ext_getElem?
  intro other
  by_cases here : index = other
  · subst here
    simp [stands, same]
  · simp [here]

/-- A further child of what has been grafted could as well have been grafted with it. -/
theorem graft_graft (stands : outline.at? place = some found) :
    graft branch (outline.nextPlace place) (graft (.node own children) place outline) =
      graft (.node own (children ++ [branch])) place outline := by
  induction place generalizing outline with
  | nil =>
      obtain ⟨rootOwn, siblings⟩ := outline
      simp [graft, nextPlace_nil, List.modify_eq_take_cons_drop]
  | cons index place ih =>
      obtain ⟨rootOwn, siblings⟩ := outline
      obtain ⟨child, childStands, stands⟩ := at?_cons stands
      rw [nextPlace_cons childStands, graft, graft, graft, List.modify_modify_eq]
      exact congrArg _ (modify_congr childStands (ih stands))

/-- Growing by a subtree grafts its whole outline. -/
theorem grow_cons (tree : Tree) (stands : outline.at? place = some found)
    (rest : List (Tree × List Nat)) :
    outline.grow ((tree, place) :: rest) = (graft tree.outline place outline).grow rest := by
  induction tree generalizing outline place found rest with
  | identifier text => rw [grow, attach_eq_graft, Tree.outline]
  | compound operator left right leftIH rightIH =>
      rw [grow, attach_eq_graft, leftIH (at?_graft stands), graft_graft stands,
        rightIH (at?_graft stands), graft_graft stands]
      rfl

theorem ofTree_eq (tree : Tree) : ofTree tree = tree.outline := by
  cases tree with
  | identifier text => rfl
  | compound operator left right =>
      have standing (children : List Outline) :
          (node (label (.compound operator left right)) children).at? [] = some _ := rfl
      rw [ofTree, grow_cons left (standing _), graft, grow_cons right (standing _), graft, grow]
      rfl

/-! ## Lines -/

theorem lines_identifier (first below : List Char) (text : String) :
    lines first below (Tree.identifier text).outline =
      [first ++ Text.withoutControls text.toList] := rfl

/-- The lines of the operands stand below the operator, each operand with its guide. -/
theorem lines_compound (first below : List Char) (operator : Operator) (left right : Tree) :
    lines first below (Tree.compound operator left right).outline =
      (first ++ operator.keyword.toList) ::
        (lines (below ++ "├── ".toList) (below ++ "│   ".toList) left.outline ++
          lines (below ++ "└── ".toList) (below ++ "    ".toList) right.outline) := rfl

end Outline

end LicenseExpr
