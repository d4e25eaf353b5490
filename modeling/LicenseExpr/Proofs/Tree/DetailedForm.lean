import LicenseExpr.Proofs.Text.Quoted
import LicenseExpr.Proofs.Tree.Structure

/-!
# Reading the detailed form back

The texts of a detailed form stand in quotes, so nothing in them is taken for
the names and marks around them, however it is spelled.  Every part tells by
itself where it ends: an identifier behind its closing quote, a compound behind
its right operand.  So the detailed form of a tree determines the tree, also in
front of more text.
-/

namespace LicenseExpr

open Text

variable {rest otherRest : List Char}

/-- The keywords of different operators begin with different letters. -/
theorem Operator.eq_of_keyword_append {first second : Operator}
    (same : first.keyword.toList ++ rest = second.keyword.toList ++ otherRest) :
    first = second := by
  have initial (operator : Operator) (rest : List Char) :
      (operator.keyword.toList ++ rest).head? = operator.keyword.toList.head? := by
    cases operator <;> rfl
  have sameInitial := congrArg List.head? same
  rw [initial, initial] at sameInitial
  revert sameInitial
  cases first <;> cases second <;> decide

namespace Expression

theorem toList_details_identifier_append (text : String) (rest : List Char) :
    (valid (.identifier text)).details.toList ++ rest =
      "Identifier(text=".toList ++ (quoted text.toList ++ ')' :: rest) := by
  rw [details_identifier]
  simp [quote]

theorem toList_details_compound_append (operator : Operator) (left right : Tree)
    (rest : List Char) :
    (valid (.compound operator left right)).details.toList ++ rest =
      "Compound(operator=<Operator.".toList ++ (operator.keyword.toList ++ (": '".toList ++
        (operator.keyword.toList ++ ("'>, left=".toList ++ ((valid left).details.toList ++
          (", right=".toList ++ ((valid right).details.toList ++ ')' :: rest))))))) := by
  rw [details_compound]
  simp

theorem identifier_append_ne_compound {text : String} {operator : Operator} {left right : Tree} :
    (valid (.identifier text)).details.toList ++ rest ≠
      (valid (.compound operator left right)).details.toList ++ otherRest := by
  intro same
  rw [toList_details_identifier_append, toList_details_compound_append] at same
  have sameInitial := congrArg List.head? same
  simp at sameInitial

/-- In front of any text a detailed form determines its tree. -/
theorem details_append_inj {first second : Tree}
    (same : (valid first).details.toList ++ rest = (valid second).details.toList ++ otherRest) :
    first = second ∧ rest = otherRest := by
  induction first generalizing second rest otherRest with
  | identifier text =>
      cases second with
      | identifier other =>
          rw [toList_details_identifier_append, toList_details_identifier_append] at same
          obtain ⟨sameText, sameRest⟩ := quoted_append_inj (List.append_cancel_left same)
          rw [String.toList_inj.mp sameText]
          exact ⟨rfl, (List.cons.inj sameRest).2⟩
      | compound operator left right => exact absurd same identifier_append_ne_compound
  | compound operator left right leftIH rightIH =>
      cases second with
      | identifier other => exact absurd same.symm identifier_append_ne_compound
      | compound otherOperator otherLeft otherRight =>
          rw [toList_details_compound_append, toList_details_compound_append] at same
          have fromOperator := List.append_cancel_left same
          obtain rfl := Operator.eq_of_keyword_append fromOperator
          simp only [List.append_cancel_left_eq] at fromOperator
          obtain ⟨rfl, behindLeft⟩ := leftIH fromOperator
          obtain ⟨rfl, behindRight⟩ := rightIH (List.append_cancel_left behindLeft)
          exact ⟨rfl, (List.cons.inj behindRight).2⟩

theorem details_valid_ne_invalid (tree : Tree) : (valid tree).details ≠ invalid.details := by
  intro same
  have sameAtEnd := congrArg (·.toList ++ []) same
  cases tree with
  | identifier text =>
      simp only [toList_details_identifier_append] at sameAtEnd
      have sameSecond := congrArg (·[1]?) sameAtEnd
      simp [details] at sameSecond
  | compound operator left right =>
      simp only [toList_details_compound_append] at sameAtEnd
      have sameInitial := congrArg List.head? sameAtEnd
      simp [details] at sameInitial

/-- The detailed form determines an expression, whatever its identifiers are. -/
theorem details_determine_expression {first second : Expression} :
    first.details = second.details ↔ first = second := by
  refine ⟨fun same => ?_, congrArg details⟩
  cases first with
  | invalid =>
      cases second with
      | invalid => rfl
      | valid other => exact absurd same.symm (details_valid_ne_invalid other)
  | valid tree =>
      cases second with
      | invalid => exact absurd same (details_valid_ne_invalid tree)
      | valid other =>
          have sameAtEnd : (valid tree).details.toList ++ [] =
              (valid other).details.toList ++ [] := by
            rw [same]
          obtain ⟨rfl, -⟩ := details_append_inj sameAtEnd
          rfl

end Expression

end LicenseExpr
