import LicenseExpr.Tree
import LicenseExpr.Proofs.Grammar.Parentheses

/-!
# Derivations

The grammar of license expressions without a parser: which lists of tokens are
expressions of a level, and of which tree.  Chains fold to the left, and a
group has the tree of what stands in its parentheses.

Each level is followed by tokens that end it, `Ends` says which; a derived
list leaves no parenthesis open, and its last token completes an operand.
-/

namespace LicenseExpr.Grammar

/-- The levels of the grammar, loosest first. -/
inductive Level where
  | orExpr
  | andExpr
  | withExpr
  | primary
deriving DecidableEq

/-- Two levels are chains: here with the level of their operands and the operator that
stands between these. -/
inductive Chains : Level → Level → Operator → Prop where
  | or : Chains .orExpr .andExpr .or
  | and : Chains .andExpr .withExpr .and

/-- The lists of tokens that are expressions of a level, with their trees. -/
inductive Derives : Level → List Token → Tree → Prop where
  | operand {level operand : Level} {operator : Operator} {tokens : List Token} {tree : Tree}
      (chains : Chains level operand operator) (only : Derives operand tokens tree) :
      Derives level tokens tree
  | link {level operand : Level} {operator : Operator} {left right : List Token}
      {leftTree rightTree : Tree} (chains : Chains level operand operator)
      (first : Derives level left leftTree) (last : Derives operand right rightTree) :
      Derives level (left ++ .operator operator :: right)
        (.compound operator leftTree rightTree)
  | license {tokens : List Token} {tree : Tree} (only : Derives .primary tokens tree) :
      Derives .withExpr tokens tree
  | exception {license exception : List Token} {licenseTree exceptionTree : Tree}
      (first : Derives .primary license licenseTree)
      (last : Derives .primary exception exceptionTree) :
      Derives .withExpr (license ++ .operator .exception :: exception)
        (.compound .exception licenseTree exceptionTree)
  | identifier (text : String) : Derives .primary [.identifier text] (.identifier text)
  | group {tokens : List Token} {tree : Tree} (inner : Derives .orExpr tokens tree) :
      Derives .primary (.openParen :: (tokens ++ [.closeParen])) tree

/-- The operators that go on with an expression of a level. -/
def Level.Takes : Level → Operator → Prop
  | .orExpr, _ => True
  | .andExpr, operator => operator ≠ .or
  | .withExpr, operator => operator = .exception
  | .primary, _ => False

/-- The tokens do not begin with an operator that goes on with an expression of the
level. -/
def Level.Ends (level : Level) (rest : List Token) : Prop :=
  ∀ operator after, rest = .operator operator :: after → ¬ level.Takes operator

/-- The level of the operand that a chain ends with; other levels are no chains. -/
def Level.lastOperand : Level → Level
  | .orExpr => .andExpr
  | .andExpr | .withExpr => .withExpr
  | .primary => .primary

/-- A token that can be the last one of an expression. -/
def CompletesOperand : Token → Prop
  | .identifier _ | .closeParen => True
  | .operator _ | .openParen => False

variable {level operand : Level} {operator : Operator} {rest tokens : List Token} {tree : Tree}

theorem Chains.takes (chains : Chains level operand operator) : level.Takes operator := by
  cases chains <;> simp [Level.Takes]

theorem Chains.not_takes (chains : Chains level operand operator) :
    ¬ operand.Takes operator := by
  cases chains <;> simp [Level.Takes]

theorem Chains.takes_iff (chains : Chains level operand operator) {other : Operator} :
    level.Takes other ↔ other = operator ∨ operand.Takes other := by
  cases chains <;> cases other <;> simp [Level.Takes]

theorem ends_nil : level.Ends [] := by
  simp [Level.Ends]

theorem ends_closeParen : level.Ends (.closeParen :: rest) := by
  simp [Level.Ends]

theorem ends_primary : Level.primary.Ends rest := by
  simp [Level.Ends, Level.Takes]

theorem ends_cons {found : Token} :
    level.Ends (found :: rest) ↔
      ∀ operator, found = .operator operator → ¬ level.Takes operator := by
  simp [Level.Ends]

theorem ends_operator : level.Ends (.operator operator :: rest) ↔ ¬ level.Takes operator := by
  simp [Level.Ends]

theorem Chains.ends_operand (chains : Chains level operand operator) (ends : level.Ends rest) :
    operand.Ends rest :=
  fun other after same taken => ends other after same (chains.takes_iff.mpr (.inr taken))

theorem Chains.lastOperand_eq (chains : Chains level operand operator) :
    level.lastOperand = operand := by
  cases chains <;> rfl

theorem Level.Ends.lastOperand (ends : level.Ends rest) : level.lastOperand.Ends rest := by
  cases level with
  | orExpr => exact Chains.or.ends_operand ends
  | andExpr => exact Chains.and.ends_operand ends
  | withExpr => exact ends
  | primary => exact ends

theorem Chains.goesOn_or_ends (chains : Chains level operand operator)
    (ends : operand.Ends rest) :
    (∃ after, rest = .operator operator :: after) ∨ level.Ends rest := by
  by_cases goesOn : ∃ after, rest = .operator operator :: after
  · exact .inl goesOn
  · refine .inr fun other after same taken => ?_
    rcases chains.takes_iff.mp taken with rfl | taken
    · exact goesOn ⟨after, same⟩
    · exact ends other after same taken

namespace Derives

/-- A primary is an expression of every level. -/
theorem of_primary (derives : Derives .primary tokens tree) (level : Level) :
    Derives level tokens tree := by
  have withExpr : Derives .withExpr tokens tree := .license derives
  have andExpr : Derives .andExpr tokens tree := .operand .and withExpr
  cases level with
  | orExpr => exact .operand .or andExpr
  | andExpr => exact andExpr
  | withExpr => exact withExpr
  | primary => exact derives

theorem openFrom_eq (derives : Derives level tokens tree) (index : Nat) (stack : List Nat) :
    openFrom index stack tokens = stack := by
  induction derives generalizing index stack with
  | operand chains only ih => exact ih index stack
  | link chains first last firstIH lastIH => simp [openFrom, firstIH, lastIH]
  | license only ih => exact ih index stack
  | exception first last firstIH lastIH => simp [openFrom, firstIH, lastIH]
  | identifier text => rfl
  | group inner ih => simp [openFrom, ih]

theorem depthAfter_eq (derives : Derives level tokens tree) (depth : Nat) :
    depthAfter depth tokens = depth := by
  have := congrArg List.length (derives.openFrom_eq 0 (.replicate depth 0))
  simpa using this

theorem exists_getLast? (derives : Derives level tokens tree) :
    ∃ last, tokens.getLast? = some last ∧ CompletesOperand last := by
  induction derives with
  | operand chains only ih => exact ih
  | license only ih => exact ih
  | link _ _ _ _ lastIH | exception _ _ _ lastIH =>
      obtain ⟨token, isLast, completes⟩ := lastIH
      exact ⟨token, by simp [List.getLast?_append, List.getLast?_cons, isLast], completes⟩
  | identifier text => exact ⟨.identifier text, rfl, trivial⟩
  | group inner ih => exact ⟨.closeParen, by simp [List.getLast?_cons], trivial⟩

/-- Both operands of an operator stand behind the same parentheses. -/
theorem fits_operator {limit : Int} {depth : Nat} (first : Derives level tokens tree) :
    Fits limit depth (tokens ++ .operator operator :: rest) ↔
      Fits limit depth tokens ∧ Fits limit depth rest := by
  rw [fits_append, first.depthAfter_eq, Fits]

end Derives

end LicenseExpr.Grammar
