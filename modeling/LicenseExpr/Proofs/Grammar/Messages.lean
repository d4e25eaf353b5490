import LicenseExpr.Proofs.Grammar.CorrectPrefix
import LicenseExpr.Proofs.Text.Printable
import LicenseExpr.Proofs.Token.Words

/-!
# What messages say

The message of a syntax error is a printable text on one line, for whatever it
takes from the expression stands in quotes.  Where its detail names a token,
the expression has that token at the index of the error.  What follows a
complete or-expression is never an operator, since the or-expression would have
gone on with it; so where something else was expected, the token that is named
is an identifier or an opening parenthesis.
-/

namespace LicenseExpr

open LicenseExpr.Text

/-! ## Printable messages -/

theorem Token.isLegible_description (token : Token) : IsLegible token.description.toList := by
  cases token with
  | identifier text =>
      have opening : IsLegible "identifier ".toList := isLegible_ofList_of_ascii (by decide)
      exact opening.toList_append (isLegible_quote text)
  | operator operator => exact isLegible_quote operator.keyword
  | openParen => exact isLegible_quote "("
  | closeParen => exact isLegible_quote ")"

theorem Fault.isLegible_detail (fault : Fault) : IsLegible fault.detail.toList := by
  cases fault with
  | nestedTooDeep limit =>
      have opening : IsLegible "parentheses nested deeper than ".toList :=
        isLegible_ofList_of_ascii (by decide)
      exact opening.toList_append (isLegible_integerText limit)
  | notClosing found =>
      have opening : IsLegible "expected \")\", got ".toList :=
        isLegible_ofList_of_ascii (by decide)
      exact opening.toList_append found.isLegible_description
  | misplacedOperator operator =>
      have opening : IsLegible "unexpected operator ".toList :=
        isLegible_ofList_of_ascii (by decide)
      have ending : IsLegible ", expected identifier or \"(\"".toList :=
        isLegible_ofList_of_ascii (by decide)
      exact (opening.toList_append (Token.isLegible_description _)).toList_append ending
  | afterExpression found =>
      have opening : IsLegible "unexpected ".toList := isLegible_ofList_of_ascii (by decide)
      have ending : IsLegible " after complete expression".toList :=
        isLegible_ofList_of_ascii (by decide)
      exact (opening.toList_append found.isLegible_description).toList_append ending
  | _ => exact isLegible_ofList_of_ascii (by decide)

theorem SyntaxError.isLegible_message (error : SyntaxError) (expression : String) :
    IsLegible (error.message expression).toList := by
  have opening : IsLegible "license expression syntax error at token ".toList :=
    isLegible_ofList_of_ascii (by decide)
  have colon : IsLegible ": ".toList := isLegible_ofList_of_ascii (by decide)
  have place := (opening.toList_append (isLegible_integerText error.index)).toList_append colon
  have complaint := (place.toList_append error.fault.isLegible_detail).toList_append colon
  exact complaint.toList_append (isLegible_quote expression)

/-! ## Details that name tokens -/

namespace Fault

variable {fault : Fault} {shown : String}

/-- The token of the expression that the detail of a fault names.  An early end and a depth
name none. -/
def named? : Fault → Option Token
  | .endOfExpression | .nestedTooDeep _ => none
  | .unclosedParen => some .openParen
  | .notClosing found | .afterExpression found => some found
  | .unmatchedParen => some .closeParen
  | .misplacedOperator operator => some (.operator operator)
  | .chainedException => some (.operator .exception)

/-- The details that there are. -/
theorem detail_cases (fault : Fault) :
    fault.detail = "unexpected end of expression, expected identifier or \"(\"" ∨
    (∃ limit, fault.detail = "parentheses nested deeper than " ++ integerText limit) ∨
    (∃ shown, fault.detail = "unexpected " ++ shown ++ " after complete expression") ∨
    (∃ shown, fault.detail = "expected \")\", got " ++ shown) ∨
    (∃ shown, fault.detail =
      "unexpected operator " ++ shown ++ ", expected identifier or \"(\"") ∨
    fault.detail ∈ ["unmatched \")\"", "unclosed \"(\"", "\"WITH\" cannot be chained"] := by
  cases fault with
  | endOfExpression => exact .inl rfl
  | nestedTooDeep limit => exact .inr (.inl ⟨limit, rfl⟩)
  | afterExpression found => exact .inr (.inr (.inl ⟨found.description, rfl⟩))
  | notClosing found => exact .inr (.inr (.inr (.inl ⟨found.description, rfl⟩)))
  | misplacedOperator operator => exact .inr (.inr (.inr (.inr (.inl ⟨_, rfl⟩))))
  | unmatchedParen => exact .inr (.inr (.inr (.inr (.inr (.head _)))))
  | unclosedParen => exact .inr (.inr (.inr (.inr (.inr (.tail _ (.head _))))))
  | chainedException => exact .inr (.inr (.inr (.inr (.inr (.tail _ (.tail _ (.head _)))))))

theorem eq_afterExpression_of_detail
    (same : fault.detail = "unexpected " ++ shown ++ " after complete expression") :
    ∃ found, fault = .afterExpression found ∧ shown = found.description := by
  have start := congrArg (fun text => text.toList.take 3) same
  have last := congrArg (fun text => text.toList.getLast?) same
  unfold detail at same start last
  cases fault with
  | afterExpression found =>
      rw [String.append_left_inj, String.append_right_inj] at same
      exact ⟨found, rfl, same.symm⟩
  -- These begin in the same way, but end with a quotation mark.
  | endOfExpression | misplacedOperator operator => simp [List.getLast?_cons] at last
  | _ => simp at start

theorem eq_notClosing_of_detail (same : fault.detail = "expected \")\", got " ++ shown) :
    ∃ found, fault = .notClosing found ∧ shown = found.description := by
  have start := congrArg (fun text => text.toList.take 3) same
  unfold detail at same start
  cases fault with
  | notClosing found =>
      rw [String.append_right_inj] at same
      exact ⟨found, rfl, same.symm⟩
  | _ => simp at start

theorem eq_misplacedOperator_of_detail
    (same : fault.detail = "unexpected operator " ++ shown ++ ", expected identifier or \"(\"") :
    ∃ operator, fault = .misplacedOperator operator ∧
      shown = (Token.operator operator).description := by
  have start := congrArg (fun text => text.toList.take 12) same
  have last := congrArg (fun text => text.toList.getLast?) same
  unfold detail at same start last
  cases fault with
  | misplacedOperator operator =>
      rw [String.append_left_inj, String.append_right_inj] at same
      exact ⟨operator, rfl, same.symm⟩
  | afterExpression found => simp [List.getLast?_cons] at last
  | _ => simp at start

theorem eq_unmatchedParen_of_detail (same : fault.detail = "unmatched \")\"") :
    fault = .unmatchedParen := by
  have start := congrArg (fun text => text.toList.take 3) same
  unfold detail at start
  cases fault with
  | unmatchedParen => rfl
  | _ => simp at start

theorem eq_chainedException_of_detail (same : fault.detail = "\"WITH\" cannot be chained") :
    fault = .chainedException := by
  have start := congrArg (fun text => text.toList.take 3) same
  unfold detail at start
  cases fault with
  | chainedException => rfl
  | _ => simp at start

end Fault

namespace Grammar

variable {limit : Int} {tokens rest : List Token} {token found : Token} {error : SyntaxError}

/-- An or-expression goes on with every operator, so none stands behind it. -/
theorem eq_identifier_or_openParen_of_ends (ends : Level.orExpr.Ends (found :: rest))
    (other : found ≠ .closeParen) : (∃ name, found = .identifier name) ∨ found = .openParen := by
  cases found with
  | identifier name => exact .inl ⟨name, rfl⟩
  | operator operator => exact absurd trivial (ends_operator.mp ends)
  | openParen => exact .inr rfl
  | closeParen => exact absurd rfl other

namespace FirstFault

/-- A first fault that names a token shows at that token. -/
theorem getElem?_of_named (faulty : FirstFault limit tokens error)
    (named : error.fault.named? = some token) : tokens[error.index]? = some token := by
  cases faulty with
  | noOperand awaits noOperand =>
      cases noOperand with
      | closeParen after | operator operator after =>
          cases named
          simp
      | _ => simp [Fault.named?] at named
  | notClosed awaits fits derives innerFits ends notClosed =>
      cases notClosed with
      | nil | cons found after other =>
          cases named
          simp [Nat.add_assoc, Nat.add_comm 1]
  | chained awaits first fits last lastFits =>
      cases named
      simp [Nat.add_assoc, Nat.add_comm 1]
  | unmatched derives fits | afterExpression derives fits ends other =>
      cases named
      simp

/-- Where a group should be closed or the list should end, no operator is found. -/
theorem eq_identifier_or_openParen (faulty : FirstFault limit tokens error)
    (stops : error.fault = .notClosing found ∨ error.fault = .afterExpression found) :
    (∃ name, found = .identifier name) ∨ found = .openParen := by
  cases faulty with
  | noOperand awaits noOperand => cases noOperand <;> simp at stops
  | notClosed awaits fits derives innerFits ends notClosed =>
      cases notClosed with
      | nil => simp at stops
      | cons other after notParen =>
          obtain rfl : other = found := by simpa using stops
          exact eq_identifier_or_openParen_of_ends ends notParen
  | @afterExpression tokens rest other tree derives fits ends notParen =>
      obtain rfl : other = found := by simpa using stops
      exact eq_identifier_or_openParen_of_ends ends notParen
  | _ => simp at stops

end FirstFault

/-- At an index stands the beginning of an operand, an identifier or a parenthesis, and a text
describes it. -/
def ShowsOperandAt (tokens : List Token) (index : Nat) (shown : String) : Prop :=
  (∃ name, tokens[index]? = some (.identifier name) ∧ shown = "identifier " ++ quote name) ∨
    (tokens[index]? = some .openParen ∧ shown = "'('")

theorem FirstFault.showsOperandAt (faulty : FirstFault limit tokens error)
    (stops : error.fault = .notClosing found ∨ error.fault = .afterExpression found) :
    ShowsOperandAt tokens error.index found.description := by
  have named : error.fault.named? = some found := by
    rcases stops with isFault | isFault <;> rw [isFault, Fault.named?]
  have atIndex := faulty.getElem?_of_named named
  rcases faulty.eq_identifier_or_openParen stops with ⟨name, rfl⟩ | rfl
  · exact .inl ⟨name, atIndex, rfl⟩
  · exact .inr ⟨atIndex, by decide +kernel⟩

/-- Every token that a detail names is the token at an index.  The details of an early end and of
the depth of nesting name none. -/
structure NamesTokenAt (tokens : List Token) (index : Nat) (detail : String) : Prop where
  wording : detail = "unexpected end of expression, expected identifier or \"(\"" ∨
    (∃ limit, detail = "parentheses nested deeper than " ++ integerText limit) ∨
    (∃ shown, detail = "unexpected " ++ shown ++ " after complete expression") ∨
    (∃ shown, detail = "expected \")\", got " ++ shown) ∨
    (∃ shown, detail = "unexpected operator " ++ shown ++ ", expected identifier or \"(\"") ∨
    detail ∈ ["unmatched \")\"", "unclosed \"(\"", "\"WITH\" cannot be chained"]
  afterExpression : ∀ shown, detail = "unexpected " ++ shown ++ " after complete expression" →
    ShowsOperandAt tokens index shown
  notClosing : ∀ shown, detail = "expected \")\", got " ++ shown →
    ShowsOperandAt tokens index shown
  misplacedOperator : ∀ shown,
    detail = "unexpected operator " ++ shown ++ ", expected identifier or \"(\"" →
      ∃ operator, tokens[index]? = some (.operator operator) ∧
        shown = "'" ++ operator.keyword ++ "'"
  unmatchedParen : detail = "unmatched \")\"" → tokens[index]? = some .closeParen
  unclosedParen : detail = "unclosed \"(\"" → tokens[index]? = some .openParen
  chainedException : detail = "\"WITH\" cannot be chained" →
    tokens[index]? = some (.operator .exception)

theorem FirstFault.namesTokenAt (faulty : FirstFault limit tokens error) :
    NamesTokenAt tokens error.index error.fault.detail := by
  have atIndex {fault : Fault} {token : Token} (isFault : error.fault = fault)
      (named : fault.named? = some token) : tokens[error.index]? = some token :=
    faulty.getElem?_of_named (isFault ▸ named)
  constructor
  case wording => exact error.fault.detail_cases
  case afterExpression =>
    intro shown same
    obtain ⟨found, isFault, rfl⟩ := Fault.eq_afterExpression_of_detail same
    exact faulty.showsOperandAt (.inr isFault)
  case notClosing =>
    intro shown same
    obtain ⟨found, isFault, rfl⟩ := Fault.eq_notClosing_of_detail same
    exact faulty.showsOperandAt (.inl isFault)
  case misplacedOperator =>
    intro shown same
    obtain ⟨operator, isFault, rfl⟩ := Fault.eq_misplacedOperator_of_detail same
    exact ⟨operator, atIndex isFault rfl, by cases operator <;> decide +kernel⟩
  case unmatchedParen =>
    exact fun same => atIndex (Fault.eq_unmatchedParen_of_detail same) rfl
  case unclosedParen =>
    exact fun same => atIndex (Fault.detail_eq_unclosedParen_iff.mp same) rfl
  case chainedException =>
    exact fun same => atIndex (Fault.eq_chainedException_of_detail same) rfl

end Grammar

/-- A message is printable text on one line, whatever the expression is, and names tokens of
the expression as they stand at the index of the error. -/
theorem error_message_names_its_token {options : Options} {expression : String}
    {error : SyntaxError} (fails : parse? options expression = .error (.syntaxError error)) :
    IsLegible (error.message expression).toList ∧ IsSpaced (error.message expression).toList ∧
      Grammar.NamesTokenAt (Token.tokenize options.anyCase expression) error.index
        error.fault.detail :=
  ⟨error.isLegible_message expression, (error.isLegible_message expression).isSpaced,
    (Grammar.parse_eq_syntaxError_iff.mp fails).1.namesTokenAt⟩

/-- Of two identifiers in a row the second is named, here an invisible space, which is escaped. -/
theorem error_message_names_second_identifier :
    parse? {} "a \u200b" =
      .error (.syntaxError ⟨1, .afterExpression (.identifier "\u200b")⟩) ∧
    IsLegible (SyntaxError.message ⟨1, .afterExpression (.identifier "\u200b")⟩
      "a \u200b").toList ∧
    Grammar.ShowsOperandAt (Token.tokenize false "a \u200b") 1 "identifier '\\u200b'" := by
  have spelled : "a \u200b".toList =
      Token.spaced [.identifier "a", .identifier "\u200b"] := by decide +kernel
  have spellable : ∀ token ∈ [.identifier "a", .identifier "\u200b"],
      Token.IsSpellable false token := by
    have word (char : Char) (isRun : Token.isRunChar char = true) :
        Token.IsIdentifier false (String.singleton char) := by
      refine ⟨by simp, ?_, ?_⟩
      · simpa using Token.isRunChar_iff.mp isRun
      · intro operator
        cases operator <;> simp [Operator.keyword]
    simp only [List.forall_mem_cons, Token.IsSpellable]
    exact ⟨word 'a' (by decide +kernel), word '\u200b' (by decide +kernel), by simp⟩
  have fails : parse? {} "a \u200b" =
      .error (.syntaxError ⟨1, .afterExpression (.identifier "\u200b")⟩) := by
    have cut : Token.tokenize false "a \u200b" = [.identifier "a", .identifier "\u200b"] := by
      rw [Token.tokenize, spelled, Token.scan_spaced spellable]
    exact parse?_eq_syntaxError cut
      (.afterExpression (.operand .or (.operand .and (.license (.identifier "a")))) trivial
        (Grammar.ends_cons.mpr (by simp)) (by simp)) rfl
  obtain ⟨legible, -, names⟩ := error_message_names_its_token fails
  exact ⟨fails, legible, names.afterExpression _ (by decide +kernel)⟩

end LicenseExpr
