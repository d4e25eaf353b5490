import LicenseExpr.Proofs.Grammar.Acceptance
import LicenseExpr.Proofs.Tree.Leaves

/-!
# The order of the tokens in a tree

Read from left to right, with every operator between its operands, a tree
gives its tokens back.  A derivation takes nothing away from these tokens but
the parentheses, so in the tree of a text every identifier and every operator
of the text stands once, in its place.
-/

namespace LicenseExpr

namespace Token

def isParen : Token → Bool
  | .openParen | .closeParen => true
  | .identifier _ | .operator _ => false

def isOperator : Token → Bool
  | .operator _ => true
  | .identifier _ | .openParen | .closeParen => false

def identifier? : Token → Option String
  | .identifier text => some text
  | .operator _ | .openParen | .closeParen => none

theorem identifier?_eq_some_iff {token : Token} {text : String} :
    token.identifier? = some text ↔ token = .identifier text := by
  cases token <;> simp [identifier?]

theorem filterMap_identifier?_filter (tokens : List Token) :
    (tokens.filter (!·.isParen)).filterMap identifier? = tokens.filterMap identifier? := by
  rw [List.filterMap_filter]
  congr 1
  funext token
  cases token <;> rfl

theorem countP_isOperator_filter (tokens : List Token) :
    (tokens.filter (!·.isParen)).countP isOperator = tokens.countP isOperator := by
  rw [List.countP_filter]
  congr 1
  funext token
  cases token <;> rfl

end Token

namespace Tree

/-- The tokens of a tree from left to right, each operator between its operands. -/
def inOrder : Tree → List Token
  | .identifier text => [.identifier text]
  | .compound operator left right => left.inOrder ++ .operator operator :: right.inOrder

/-- The number of operators in a tree. -/
def compounds : Tree → Nat
  | .identifier _ => 0
  | .compound _ left right => left.compounds + right.compounds + 1

theorem filterMap_identifier?_inOrder (tree : Tree) :
    tree.inOrder.filterMap Token.identifier? = tree.texts := by
  induction tree with
  | identifier text => rfl
  | compound operator left right leftIH rightIH =>
      rw [inOrder, List.filterMap_append, List.filterMap_cons_none rfl, leftIH, rightIH, texts]

theorem countP_isOperator_inOrder (tree : Tree) :
    tree.inOrder.countP Token.isOperator = tree.compounds := by
  induction tree with
  | identifier text => rfl
  | compound operator left right leftIH rightIH =>
      rw [inOrder, List.countP_append, List.countP_cons_of_pos rfl, leftIH, rightIH, compounds,
        Nat.add_assoc]

end Tree

namespace Grammar.Derives

variable {level : Level} {tokens : List Token} {tree : Tree}

/-- A derivation keeps every token in its place but the parentheses. -/
theorem inOrder_eq (derives : Derives level tokens tree) :
    tree.inOrder = tokens.filter (!·.isParen) := by
  induction derives with
  | operand chains only ih => exact ih
  | license only ih => exact ih
  | link _ _ _ firstIH lastIH | exception _ _ firstIH lastIH =>
      rw [Tree.inOrder, firstIH, lastIH, List.filter_append, List.filter_cons_of_pos rfl]
  | identifier text => rfl
  | group inner ih =>
      rw [ih, List.filter_cons_of_neg (by decide), List.filter_append,
        List.filter_cons_of_neg (by decide), List.filter_nil, List.append_nil]

theorem texts_eq (derives : Derives level tokens tree) :
    tree.texts = tokens.filterMap Token.identifier? := by
  rw [← tree.filterMap_identifier?_inOrder, derives.inOrder_eq, Token.filterMap_identifier?_filter]

theorem compounds_eq (derives : Derives level tokens tree) :
    tree.compounds = tokens.countP Token.isOperator := by
  rw [← tree.countP_isOperator_inOrder, derives.inOrder_eq, Token.countP_isOperator_filter]

/-- The leaves of a tree are tokens of its derivation. -/
theorem identifier_mem (derives : Derives level tokens tree) {text : String}
    (member : text ∈ tree.texts) : .identifier text ∈ tokens := by
  rw [derives.texts_eq, List.mem_filterMap] at member
  obtain ⟨token, inTokens, isIdentifier⟩ := member
  rwa [Token.identifier?_eq_some_iff.mp isIdentifier] at inTokens

end Grammar.Derives

/-- The tree of a text has the tokens of the text in their order, all but the parentheses: its
identifiers are those of the text, repetitions included, and it has an operator for each of
the text. -/
theorem inOrder_eq_of_parse {options : Options} {text : String} {tree : Tree}
    (parsed : parse options text = .ok (.valid tree)) :
    tree.inOrder = (Token.tokenize options.anyCase text).filter (!·.isParen) ∧
    (Expression.valid tree).identifiers =
      (Token.tokenize options.anyCase text).filterMap Token.identifier? ∧
    tree.compounds = (Token.tokenize options.anyCase text).countP Token.isOperator := by
  obtain ⟨derives, -⟩ := Grammar.parse_eq_ok_iff.mp (parse_eq_valid_iff.mp parsed)
  refine ⟨derives.inOrder_eq, ?_, derives.compounds_eq⟩
  rw [Expression.identifiers, Tree.leaves_false, derives.texts_eq]

open Grammar in
/-- In `b OR ((a WITH b) AND a)` both identifiers stand twice, and the parentheses leave no
trace. -/
theorem inOrder_of_nested_groups :
    parse {} "b OR ((a WITH\tb) AND a)" = .ok (.valid (.compound .or (.identifier "b")
      (.compound .and (.compound .exception (.identifier "a") (.identifier "b"))
        (.identifier "a")))) ∧
    (Token.tokenize false "b OR ((a WITH\tb) AND a)").filter (!·.isParen) =
      [.identifier "b", .operator .or, .identifier "a", .operator .exception, .identifier "b",
        .operator .and, .identifier "a"] ∧
    (Token.tokenize false "b OR ((a WITH\tb) AND a)").filterMap Token.identifier? =
      ["b", "a", "b", "a"] ∧
    (Token.tokenize false "b OR ((a WITH\tb) AND a)").countP Token.isOperator = 3 := by
  have tokens : Token.tokenize false "b OR ((a WITH\tb) AND a)" = [.identifier "b",
      .operator .or, .openParen, .openParen, .identifier "a", .operator .exception,
      .identifier "b", .closeParen, .operator .and, .identifier "a", .closeParen] := by
    decide +kernel
  have exception := Derives.exception (.identifier "a") (.identifier "b")
  have inner := Derives.link .and
    ((Derives.group (.operand .or (.operand .and exception))).of_primary .andExpr)
    ((Derives.identifier "a").of_primary .withExpr)
  have whole := Derives.link .or ((Derives.identifier "b").of_primary .orExpr)
    ((Derives.group (.operand .or inner)).of_primary .andExpr)
  have parsed : parse {} "b OR ((a WITH\tb) AND a)" = .ok (.valid (.compound .or (.identifier "b")
      (.compound .and (.compound .exception (.identifier "a") (.identifier "b"))
        (.identifier "a")))) :=
    parse_eq_valid_of_derives tokens whole ⟨by decide, by decide, trivial⟩
  obtain ⟨sameOrder, sameIdentifiers, sameNumber⟩ := inOrder_eq_of_parse parsed
  rw [Expression.identifiers, Tree.leaves_false] at sameIdentifiers
  exact ⟨parsed, sameOrder.symm, sameIdentifiers.symm, sameNumber.symm⟩

end LicenseExpr
