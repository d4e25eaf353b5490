import LicenseExpr.Tree.Written
import LicenseExpr.Text.Terminal

/-!
# Expressions as outlines

An outline is a labelled tree as it is drawn on a terminal. It is grown from
the root: a list of pending work holds the subtrees still to be drawn, each
with the place of its parent in the outline.
-/

namespace LicenseExpr

inductive Outline where
  | node (label : List Char) (children : List Outline)

namespace Outline

def children : Outline → List Outline
  | .node _ children => children

/-- The outline at a place: the positions of children on the way down from the root. -/
def at? : Outline → (place : List Nat) → Option Outline
  | outline, [] => some outline
  | .node _ children, index :: place =>
      match children[index]? with
      | some child => child.at? place
      | none => none

def attach (label : List Char) : (place : List Nat) → Outline → Outline
  | [], .node own children => .node own (children ++ [.node label []])
  | index :: place, .node own children => .node own (children.modify index (attach label place))

/-- The place that the next child at a place will have. -/
def nextPlace (outline : Outline) (place : List Nat) : List Nat :=
  place ++ [((outline.at? place).map (·.children.length)).getD 0]

def label : Tree → List Char
  | .identifier text => Text.withoutControls text.toList
  | .compound operator _ _ => operator.keyword.toList

/-- Grows an outline by the pending trees, each below the place that comes with it. -/
def grow (outline : Outline) (pending : List (Tree × List Nat)) : Outline :=
  match pending with
  | [] => outline
  | (.identifier text, parent) :: rest =>
      grow (outline.attach (label (.identifier text)) parent) rest
  | (.compound operator left right, parent) :: rest =>
      let place := outline.nextPlace parent
      grow (outline.attach (label (.compound operator left right)) parent)
        ((left, place) :: (right, place) :: rest)
termination_by Tree.totalSize (pending.map Prod.fst)
decreasing_by
  all_goals simp only [Tree.totalSize, List.map_cons, Tree.size]
  all_goals omega

def ofTree : Tree → Outline
  | .identifier text => .node (label (.identifier text)) []
  | .compound operator left right =>
      grow (.node (label (.compound operator left right)) []) [(left, []), (right, [])]

def ofExpression : Expression → Outline
  | .invalid => .node Expression.invalidText.toList []
  | .valid tree => ofTree tree

mutual

/-- The labels from top to bottom, each with its depth. -/
def view (depth : Nat) : Outline → List (Nat × List Char)
  | .node label children => (depth, label) :: viewAll (depth + 1) children

def viewAll (depth : Nat) : List Outline → List (Nat × List Char)
  | [] => []
  | child :: rest => view depth child ++ viewAll depth rest

end

mutual

/-- The lines of an outline: the first begins with `first`, the others with `below`. -/
def lines (first below : List Char) : Outline → List (List Char)
  | .node label children => (first ++ label) :: childLines below children

def childLines (below : List Char) : List Outline → List (List Char)
  | [] => []
  | [child] => lines (below ++ "└── ".toList) (below ++ "    ".toList) child
  | child :: other :: rest =>
      lines (below ++ "├── ".toList) (below ++ "│   ".toList) child ++
        childLines below (other :: rest)

end

/-- The drawing of an outline, each line with its line feed. -/
def drawing (outline : Outline) : String :=
  String.ofList ((lines [] [] outline).flatMap (· ++ ['\n']))

end Outline

end LicenseExpr
