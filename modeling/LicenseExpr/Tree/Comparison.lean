import LicenseExpr.Tree.Written

/-!
# Comparing expressions

Trees are compared pair by pair with a list of pending pairs. A pair that is
already known to be the same tree may be passed over. Expressions are looked
up by a key, which for a compound tree is its canonical form; since different
trees can have the same key, the comparison decides.
-/

namespace LicenseExpr

namespace Tree

/-- Whether the two trees of every pending pair are the same. `known` may answer that the
first pair is the same tree without a look at it. -/
def agree (known : List (Tree × Tree) → Bool) (pending : List (Tree × Tree)) : Bool :=
  match pending with
  | [] => true
  | (first, second) :: rest =>
      if known ((first, second) :: rest) then agree known rest
      else
        match first, second with
        | .compound operator left right, .compound operator' left' right' =>
            if operator = operator' then agree known ((left, left') :: (right, right') :: rest)
            else false
        | .identifier text, .identifier text' => if text = text' then agree known rest else false
        | _, _ => false
termination_by totalSize (pending.map Prod.fst)
decreasing_by
  all_goals simp only [totalSize, List.map_cons, size]
  all_goals first | omega | exact Nat.lt_add_of_pos_left (size_pos _)

def same (first second : Tree) : Bool :=
  agree (fun _ => false) [(first, second)]

end Tree

namespace Expression

def same : Expression → Expression → Bool
  | .invalid, .invalid => true
  | .valid first, .valid second => first.same second
  | _, _ => false

inductive Key where
  | invalid
  | identifier (text : String)
  | compound (rendering : String)
deriving DecidableEq

def key : Expression → Key
  | .invalid => .invalid
  | .valid (.identifier text) => .identifier text
  | .valid (.compound operator left right) =>
      .compound ((Tree.compound operator left right).write .canonical)

/-- A set of expressions, each with its key and the number that it was entered under. -/
abbrev Catalogue := List (Key × Expression × Nat)

namespace Catalogue

def number? (catalogue : Catalogue) (expression : Expression) : Option Nat :=
  let key := expression.key
  (catalogue.find? fun entry => entry.1 = key && entry.2.1.same expression).map (·.2.2)

/-- The catalogue with the expression in it, and the number of its first entry. -/
def enter (catalogue : Catalogue) (expression : Expression) (number : Nat) :
    Nat × Catalogue :=
  match catalogue.number? expression with
  | some first => (first, catalogue)
  | none => (number, catalogue ++ [(expression.key, expression, number)])

def enterAll (catalogue : Catalogue) : List Expression → (number : Nat) → List Nat × Catalogue
  | [], _ => ([], catalogue)
  | expression :: rest, number =>
      let entered := catalogue.enter expression number
      let others := enterAll entered.2 rest (number + 1)
      (entered.1 :: others.1, others.2)

end Catalogue

/-- For each expression of a list the position of the first that is the same, and how many
different ones there are. -/
def distinct (expressions : List Expression) : List Nat × Nat :=
  let entered := Catalogue.enterAll [] expressions 0
  (entered.1, entered.2.length)

end Expression

end LicenseExpr
