import LicenseExpr.Tree
import LicenseExpr.Text.Quoted

/-!
# Written forms of a tree

A form says what a leaf looks like and what stands before, between and after
the operands of an operator. Operator chains fold to the left, so trees are
deep; they are written with a list of pending work instead of by recursion,
and `write_eq` says that this is the same text.
-/

namespace LicenseExpr

structure TreeForm where
  leaf : String → String
  opening : Operator → String
  middle : String
  closing : String

namespace TreeForm

/-- The operator in front of its operands: `OR(left, right)`. -/
def canonical : TreeForm :=
  ⟨id, fun operator => operator.keyword ++ "(", ", ", ")"⟩

/-- Every node with its kind and its parts by name, texts in quotes. -/
def detailed : TreeForm where
  leaf text := "Identifier(text=" ++ Text.quote text ++ ")"
  opening operator :=
    "Compound(operator=<Operator." ++ operator.keyword ++ ": '" ++ operator.keyword ++ "'>, left="
  middle := ", right="
  closing := ")"

end TreeForm

namespace Tree

def written (form : TreeForm) : Tree → String
  | .identifier text => form.leaf text
  | .compound operator left right =>
      form.opening operator ++ left.written form ++ form.middle ++ right.written form ++
        form.closing

/-- What is still to be written: a text as it is, or a tree. -/
inductive Pending where
  | text (text : String)
  | tree (tree : Tree)

/-- Three for every node of a pending tree, and one for a text. -/
def Pending.weight : Pending → Nat
  | .text _ => 1
  | .tree whole => 3 * whole.size

def totalWeight : List Pending → Nat
  | [] => 0
  | first :: rest => first.weight + totalWeight rest

/-- Appends the pending texts and trees to what is written so far. -/
def writeAll (form : TreeForm) (written : String) (pending : List Pending) : String :=
  match pending with
  | [] => written
  | .text text :: rest => writeAll form (written ++ text) rest
  | .tree (.identifier text) :: rest => writeAll form (written ++ form.leaf text) rest
  | .tree (.compound operator left right) :: rest =>
      writeAll form (written ++ form.opening operator)
        (.tree left :: .text form.middle :: .tree right :: .text form.closing :: rest)
termination_by totalWeight pending
decreasing_by
  all_goals simp only [totalWeight, Pending.weight, size]
  all_goals omega

def write (form : TreeForm) (tree : Tree) : String :=
  writeAll form "" [.tree tree]

/-- What a pending text or tree adds to what is written. -/
def Pending.written (form : TreeForm) : Pending → String
  | .text own => own
  | .tree whole => whole.written form

theorem writeAll_eq (form : TreeForm) (written : String) (pending : List Pending) :
    writeAll form written pending =
      pending.foldl (fun text item => text ++ item.written form) written := by
  fun_induction writeAll form written pending with
  | case1 written => rfl
  | case2 written text rest ih => exact ih
  | case3 written text rest ih => exact ih
  | case4 written operator left right rest ih =>
      rw [ih]
      simp only [List.foldl_cons, Pending.written, Tree.written, String.append_assoc]

/-- The list of pending work writes the same text as the recursion. -/
theorem write_eq (form : TreeForm) (tree : Tree) : tree.write form = tree.written form := by
  rw [write, writeAll_eq]
  exact String.empty_append

end Tree

namespace Expression

/-- What stands for an expression without a valid tree. No identifier and no operator begins
with a parenthesis. -/
def invalidText : String := "(INVALID)"

/-- The canonical form: the tree with operators in front. -/
def render : Expression → String
  | .invalid => invalidText
  | .valid tree => tree.write .canonical

/-- The detailed form, from which the expression can be rebuilt. -/
def details : Expression → String
  | .invalid => "Invalid()"
  | .valid tree => tree.write .detailed

end Expression

end LicenseExpr
