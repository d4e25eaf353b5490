import LicenseExpr.Proofs.Grammar.Grouping
import LicenseExpr.Proofs.Tree.Sameness

/-!
# Reading the canonical form back

Leaves may hold commas and may be spelled like operators, so the separators
and the operators of a canonical form are not recognised by their letters.
What can be recognised is the first space or parenthesis: a leaf has none, an
operator is followed by an opening parenthesis, and an operand by a space or a
closing one.  So the canonical form of a tree with such leaves determines the
tree, also in front of more text, and it is the same text for two parsed
expressions only if they are equal.
-/

namespace LicenseExpr

/-- A character that is no space and no parenthesis. -/
def isPlain (char : Char) : Bool :=
  char != ' ' && char != '(' && char != ')'

/-- An expression whose identifiers hold no spaces and no parentheses. -/
def Expression.IsPlain : Expression → Prop
  | .invalid => True
  | .valid tree => ∀ text ∈ tree.texts, ∀ char ∈ text.toList, isPlain char = true

/-- Nothing, or a text that begins with a space or a closing parenthesis. -/
def EndsOperand (rest : List Char) : Prop :=
  ∀ char after, rest = char :: after → char = ' ' ∨ char = ')'

/-- Nothing, or a text that does not begin with a plain character. -/
def EndsWord (rest : List Char) : Prop :=
  ∀ char after, rest = char :: after → isPlain char = false

variable {word other rest otherRest glue : List Char}

theorem EndsOperand.endsWord (ends : EndsOperand rest) : EndsWord rest := by
  intro char after same
  rcases ends char after same with rfl | rfl <;> rfl

theorem endsWord_openParen : EndsWord ('(' :: rest) := by
  intro char after same
  cases same
  rfl

theorem endsOperand_nil : EndsOperand [] := by
  intro char after same
  cases same

theorem endsOperand_space : EndsOperand (' ' :: rest) := by
  intro char after same
  cases same
  exact .inl rfl

theorem endsOperand_closeParen : EndsOperand (')' :: rest) := by
  intro char after same
  cases same
  exact .inr rfl

/-- A word ends where the first character stands that is not plain. -/
theorem word_append_inj (plain : ∀ char ∈ word, isPlain char = true)
    (otherPlain : ∀ char ∈ other, isPlain char = true) (ends : EndsWord rest)
    (otherEnds : EndsWord otherRest) (same : word ++ rest = other ++ otherRest) :
    word = other ∧ rest = otherRest := by
  induction word generalizing other with
  | nil =>
      cases other with
      | nil => exact ⟨rfl, same⟩
      | cons char other =>
          have := ends char (other ++ otherRest) same
          rw [otherPlain char List.mem_cons_self] at this
          cases this
  | cons char word ih =>
      cases other with
      | nil =>
          have := otherEnds char (word ++ rest) same.symm
          rw [plain char List.mem_cons_self] at this
          cases this
      | cons otherChar other =>
          rw [List.cons_append, List.cons_append, List.cons.injEq] at same
          obtain ⟨rfl, same⟩ := same
          obtain ⟨rfl, rfl⟩ := ih (fun char member => plain char (List.mem_cons_of_mem _ member))
            (fun char member => otherPlain char (List.mem_cons_of_mem _ member)) same
          exact ⟨rfl, rfl⟩

theorem plain_keyword (operator : Operator) :
    ∀ char ∈ operator.keyword.toList, isPlain char = true := by
  apply List.all_eq_true.mp
  cases operator <;> decide

namespace Tree

/-- The characters of the canonical form. -/
def canonical : Tree → List Char
  | .identifier text => text.toList
  | .compound operator left right =>
      operator.keyword.toList ++ '(' :: (left.canonical ++ ',' :: ' ' :: (right.canonical ++ [')']))

theorem toList_write_canonical (tree : Tree) :
    (tree.write .canonical).toList = tree.canonical := by
  rw [write_eq]
  induction tree with
  | identifier text => rfl
  | compound operator left right leftIH rightIH =>
      simp [written, TreeForm.canonical, canonical] at leftIH rightIH ⊢
      rw [leftIH, rightIH]

/-- A compound in front of more text: its operator, and both operands with what ends them. -/
theorem canonical_compound_append (operator : Operator) (left right : Tree) (rest : List Char) :
    (compound operator left right).canonical ++ rest =
      operator.keyword.toList ++ '(' :: (left.canonical ++
        ([','] ++ ' ' :: (right.canonical ++ ([] ++ ')' :: rest)))) := by
  simp [canonical]

theorem isPlain_compound {operator : Operator} {left right : Tree} :
    (Expression.valid (compound operator left right)).IsPlain ↔
      (Expression.valid left).IsPlain ∧ (Expression.valid right).IsPlain :=
  List.forall_mem_append

/-- A leaf is not followed by a parenthesis, an operator is. -/
theorem leaf_append_ne_compound {text : String} {operator : Operator} {left right : Tree}
    (textPlain : ∀ char ∈ text.toList, isPlain char = true)
    (gluePlain : ∀ char ∈ glue, isPlain char = true) (ends : EndsOperand rest) :
    text.toList ++ (glue ++ rest) ≠ (compound operator left right).canonical ++ otherRest := by
  intro same
  have gluedPlain : ∀ char ∈ text.toList ++ glue, isPlain char = true :=
    List.forall_mem_append.mpr ⟨textPlain, gluePlain⟩
  rw [canonical_compound_append, ← List.append_assoc] at same
  obtain ⟨-, rfl⟩ := word_append_inj gluedPlain (plain_keyword operator) ends.endsWord
    endsWord_openParen same
  rcases ends '(' _ rfl with impossible | impossible <;> cases impossible

/-- In front of a text that ends operands, also over some more plain characters, a canonical
form determines its tree. -/
theorem canonical_append_inj {first second : Tree}
    (plain : (Expression.valid first).IsPlain) (otherPlain : (Expression.valid second).IsPlain)
    (gluePlain : ∀ char ∈ glue, isPlain char = true) (ends : EndsOperand rest)
    (otherEnds : EndsOperand otherRest)
    (same : first.canonical ++ (glue ++ rest) = second.canonical ++ (glue ++ otherRest)) :
    first = second ∧ rest = otherRest := by
  -- A left operand is followed by a comma that a leaf could hold as well: hence the glue.
  induction first generalizing second glue rest otherRest with
  | identifier text =>
      have textPlain := plain text (List.mem_singleton_self text)
      cases second with
      | identifier other =>
          have otherTextPlain := otherPlain other (List.mem_singleton_self other)
          rw [canonical, canonical, ← List.append_assoc, ← List.append_assoc] at same
          obtain ⟨sameGlued, rfl⟩ := word_append_inj
            (List.forall_mem_append.mpr ⟨textPlain, gluePlain⟩)
            (List.forall_mem_append.mpr ⟨otherTextPlain, gluePlain⟩) ends.endsWord
            otherEnds.endsWord same
          have sameText := List.append_cancel_right sameGlued
          exact ⟨by rw [String.toList_inj.mp sameText], rfl⟩
      | compound operator left right =>
          exact absurd same (leaf_append_ne_compound textPlain gluePlain ends)
  | compound operator left right leftIH rightIH =>
      cases second with
      | identifier other =>
          have otherTextPlain := otherPlain other (List.mem_singleton_self other)
          exact absurd same.symm (leaf_append_ne_compound otherTextPlain gluePlain otherEnds)
      | compound otherOperator otherLeft otherRight =>
          obtain ⟨leftPlain, rightPlain⟩ := isPlain_compound.mp plain
          obtain ⟨otherLeftPlain, otherRightPlain⟩ := isPlain_compound.mp otherPlain
          rw [canonical_compound_append, canonical_compound_append] at same
          obtain ⟨sameKeyword, sameOperands⟩ := word_append_inj (plain_keyword operator)
            (plain_keyword otherOperator) endsWord_openParen endsWord_openParen same
          obtain rfl := Operator.keyword_inj.mp (String.toList_inj.mp sameKeyword)
          rw [List.cons.injEq] at sameOperands
          obtain ⟨rfl, afterLeft⟩ := leftIH leftPlain otherLeftPlain
            (List.forall_mem_singleton.mpr rfl) endsOperand_space endsOperand_space sameOperands.2
          rw [List.cons.injEq] at afterLeft
          obtain ⟨rfl, afterRight⟩ := rightIH rightPlain otherRightPlain (by simp)
            endsOperand_closeParen endsOperand_closeParen afterLeft.2
          rw [List.cons.injEq] at afterRight
          exact ⟨rfl, List.append_cancel_left afterRight.2⟩

/-- No plain tree is written with a parenthesis first. -/
theorem canonical_ne_openParen {tree : Tree} (plain : (Expression.valid tree).IsPlain) :
    tree.canonical ≠ '(' :: rest := by
  intro same
  cases tree with
  | identifier text =>
      have textPlain := plain text (List.mem_singleton_self text)
      have opens : text.toList = '(' :: rest := same
      have member : '(' ∈ text.toList := by
        rw [opens]
        exact List.mem_cons_self
      cases textPlain '(' member
  | compound operator left right =>
      obtain ⟨noKeyword, -⟩ : operator.keyword.toList = [] ∧ _ :=
        word_append_inj (plain_keyword operator) (by simp) endsWord_openParen
          endsWord_openParen same
      cases operator <;> cases noKeyword

end Tree

/-- The identifiers of a text hold no blanks and no parentheses. -/
theorem isPlain_of_parse {options : Options} {text : String} {expression : Expression}
    (parsed : parse options text = .ok expression) : expression.IsPlain := by
  cases expression with
  | invalid => trivial
  | valid tree =>
      intro leaf member char inLeaf
      obtain ⟨derives, -⟩ := Grammar.parse_eq_ok_iff.mp (parse_eq_valid_iff.mp parsed)
      obtain ⟨notBlank, notOpen, notClose⟩ :=
        (Token.isIdentifier_of_mem_scan (derives.identifier_mem member)).unbroken char inLeaf
      have notSpace : char ≠ ' ' := by
        rintro rfl
        cases notBlank
      simp [isPlain, notSpace, notOpen, notClose]

namespace Expression

theorem toList_render_valid (tree : Tree) : (valid tree).render.toList = tree.canonical :=
  tree.toList_write_canonical

theorem render_valid_ne_invalidText {tree : Tree} (plain : (valid tree).IsPlain) :
    (valid tree).render ≠ invalidText := by
  intro same
  have same := congrArg String.toList same
  rw [toList_render_valid] at same
  exact Tree.canonical_ne_openParen plain same

theorem eq_of_render_eq {first second : Expression} (plain : first.IsPlain)
    (otherPlain : second.IsPlain) (same : first.render = second.render) : first = second := by
  cases first with
  | invalid =>
      cases second with
      | invalid => rfl
      | valid other => exact absurd same.symm (render_valid_ne_invalidText otherPlain)
  | valid tree =>
      cases second with
      | invalid => exact absurd same (render_valid_ne_invalidText plain)
      | valid other =>
          have same : tree.canonical = other.canonical := by
            rw [← toList_render_valid, ← toList_render_valid, same]
          have sameAtEnd : tree.canonical ++ ([] ++ []) = other.canonical ++ ([] ++ []) := by
            rw [same]
          obtain ⟨rfl, -⟩ := Tree.canonical_append_inj plain otherPlain (by simp)
            endsOperand_nil endsOperand_nil sameAtEnd
          rfl

/-- Expressions that are found under the same key are rendered the same. -/
theorem render_eq_of_key_eq {first second : Expression} (same : first.key = second.key) :
    first.render = second.render := by
  rcases first with _ | ⟨text | ⟨operator, left, right⟩⟩ <;>
    rcases second with _ | ⟨other | ⟨operator', left', right'⟩⟩ <;>
    simp_all [key, render]

/-- The canonical form determines an expression whose identifiers hold no spaces and no
parentheses, so comparing parsed expressions, their canonical forms or their keys is the same. -/
theorem render_determines_expression :
    (∀ first second : Expression, first.IsPlain → second.IsPlain →
      first.render = second.render → first = second) ∧
    (∀ tree, (valid tree).IsPlain → (valid tree).render ≠ invalidText) ∧
    ∀ options otherOptions text otherText first second,
      parse options text = .ok first → parse otherOptions otherText = .ok second →
      first.IsPlain ∧ (first.same second = true ↔ first.render = second.render) ∧
        (first.key = second.key ↔ first.render = second.render) := by
  refine ⟨fun _ _ => eq_of_render_eq, fun _ => render_valid_ne_invalidText, ?_⟩
  intro options otherOptions text otherText first second parsed otherParsed
  have plain := isPlain_of_parse parsed
  have otherPlain := isPlain_of_parse otherParsed
  refine ⟨plain, ?_, ⟨render_eq_of_key_eq, fun same => ?_⟩⟩
  · rw [same_iff]
    exact ⟨congrArg render, eq_of_render_eq plain otherPlain⟩
  · rw [eq_of_render_eq plain otherPlain same]

end Expression

end LicenseExpr
