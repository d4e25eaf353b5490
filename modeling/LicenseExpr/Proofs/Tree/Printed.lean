import LicenseExpr.Proofs.Text.Terminal
import LicenseExpr.Proofs.Tree.CanonicalForm
import LicenseExpr.Proofs.Tree.Outline

/-!
# Parsed expressions in print

The identifiers of a parsed expression are unbroken: they hold no blanks and no
parentheses.  So its canonical form is printed on one line, and of its drawing
only the first line holds no space, for every other line stands behind a guide.
Neither is ever mistaken for what is printed of an invalid expression, not even
when control characters are dropped, because that begins with a parenthesis.
-/

namespace LicenseExpr

open LicenseExpr.Text

theorem isIdentifier_of_mem_texts {options : Options} {text leaf : String} {tree : Tree}
    (parsed : parse options text = .ok (.valid tree)) (member : leaf ∈ tree.texts) :
    Token.IsIdentifier options.anyCase leaf := by
  obtain ⟨derives, -⟩ := Grammar.parse_eq_ok_iff.mp (parse_eq_valid_iff.mp parsed)
  exact Token.isIdentifier_of_mem_scan (derives.identifier_mem member)

/-- A tree whose identifiers hold no blanks and no parentheses. -/
def Tree.IsUnbroken (tree : Tree) : Prop :=
  ∀ text ∈ tree.texts, ∀ char ∈ text.toList, Token.isRunChar char = true

/-- An expression whose identifiers hold no blanks and no parentheses. -/
def Expression.IsUnbroken : Expression → Prop
  | .invalid => True
  | .valid tree => tree.IsUnbroken

theorem isUnbroken_of_parse {options : Options} {text : String} {expression : Expression}
    (parsed : parse options text = .ok expression) : expression.IsUnbroken := by
  cases expression with
  | invalid => trivial
  | valid tree =>
      intro leaf member char inLeaf
      exact Token.isRunChar_iff.mpr ((isIdentifier_of_mem_texts parsed member).unbroken char inLeaf)

namespace Tree

variable {tree left right : Tree} {operator : Operator} {text : String} {char : Char}

theorem IsUnbroken.isRunChar (unbroken : (identifier text).IsUnbroken)
    (member : char ∈ text.toList) : Token.isRunChar char = true :=
  unbroken text (List.mem_singleton_self text) char member

theorem isUnbroken_compound :
    (compound operator left right).IsUnbroken ↔ left.IsUnbroken ∧ right.IsUnbroken :=
  List.forall_mem_append

/-! ## The canonical form -/

/-- A canonical form consists of the characters of the identifiers and of some marks. -/
theorem forall_mem_canonical {motive : Char → Prop}
    (leaves : ∀ text ∈ tree.texts, ∀ char ∈ text.toList, motive char)
    (marks : ∀ char ∈ "ORANDWITH(), ".toList, motive char) :
    ∀ char ∈ tree.canonical, motive char := by
  have keywords (operator : Operator) : ∀ char ∈ operator.keyword.toList, motive char := by
    have included : operator.keyword.toList ⊆ "ORANDWITH(), ".toList := by
      cases operator <;> decide
    exact fun char member => marks char (included member)
  have mark {char : Char} (member : char ∈ "ORANDWITH(), ".toList) : motive char :=
    marks char member
  induction tree with
  | identifier text => exact leaves text (List.mem_singleton_self text)
  | compound operator left right leftIH rightIH =>
      obtain ⟨leftLeaves, rightLeaves⟩ := List.forall_mem_append.mp leaves
      simp only [canonical, List.forall_mem_append, List.forall_mem_cons]
      exact ⟨keywords operator, mark (by decide), leftIH leftLeaves, mark (by decide),
        mark (by decide), rightIH rightLeaves, mark (by decide), by simp⟩

/-- The only blanks of a canonical form are spaces. -/
theorem IsUnbroken.not_mem_canonical (unbroken : tree.IsUnbroken) (blank : isBlank char = true)
    (notSpace : char ≠ ' ') : char ∉ tree.canonical := by
  have marks : "ORANDWITH(), ".toList.filter isBlank = [' '] := by decide
  have others : ∀ other ∈ tree.canonical, other ≠ char := by
    apply forall_mem_canonical
    · rintro text textMember _ inText rfl
      obtain ⟨notBlank, -⟩ := Token.isRunChar_iff.mp (unbroken text textMember _ inText)
      rw [blank] at notBlank
      cases notBlank
    · rintro mark isMark rfl
      have blankMark := List.mem_filter.mpr ⟨isMark, blank⟩
      rw [marks] at blankMark
      exact notSpace (List.mem_singleton.mp blankMark)
  exact fun member => others char member rfl

theorem IsUnbroken.withoutControls_canonical_ne (unbroken : tree.IsUnbroken) :
    withoutControls tree.canonical ≠ Expression.invalidText.toList := by
  intro same
  cases tree with
  | identifier text =>
      have opens : '(' ∈ withoutControls (identifier text).canonical := by
        rw [same]
        decide
      have notRun := unbroken.isRunChar (List.mem_filter.mp opens).1
      cases notRun
  | compound operator left right =>
      have keywordStays : withoutControls operator.keyword.toList = operator.keyword.toList := by
        cases operator <;> decide
      rw [canonical, withoutControls, List.filter_append, ← withoutControls, keywordStays] at same
      cases operator <;> cases same

/-! ## The drawing -/

/-- Behind a guide no line is without a space. -/
theorem space_mem_of_mem_lines {first below line : List Char} (guided : ' ' ∈ first)
    (member : line ∈ Outline.lines first below tree.outline) : ' ' ∈ line := by
  induction tree generalizing first below with
  | identifier text =>
      obtain rfl := List.mem_singleton.mp member
      exact List.mem_append_left _ guided
  | compound operator left right leftIH rightIH =>
      rw [Outline.lines_compound, List.mem_cons, List.mem_append] at member
      rcases member with rfl | inLeft | inRight
      · exact List.mem_append_left _ guided
      · exact leftIH (List.mem_append_right _ (by decide)) inLeft
      · exact rightIH (List.mem_append_right _ (by decide)) inRight

theorem IsUnbroken.lineFeed_not_mem_of_mem_lines (unbroken : tree.IsUnbroken)
    {first below line : List Char} (inFirst : '\n' ∉ first) (inBelow : '\n' ∉ below)
    (member : line ∈ Outline.lines first below tree.outline) : '\n' ∉ line := by
  induction tree generalizing first below with
  | identifier text =>
      obtain rfl := List.mem_singleton.mp member
      intro lineFeed
      rcases List.mem_append.mp lineFeed with atFirst | inText
      · exact inFirst atFirst
      · cases unbroken.isRunChar (List.mem_filter.mp inText).1
  | compound operator left right leftIH rightIH =>
      obtain ⟨leftUnbroken, rightUnbroken⟩ := isUnbroken_compound.mp unbroken
      have behind {guide : List Char} (inGuide : '\n' ∉ guide) : '\n' ∉ below ++ guide := by
        simp [inBelow, inGuide]
      rw [Outline.lines_compound, List.mem_cons, List.mem_append] at member
      rcases member with rfl | inLeft | inRight
      · have inKeyword : '\n' ∉ operator.keyword.toList := by cases operator <;> decide
        simp [inFirst, inKeyword]
      · exact leftIH leftUnbroken (behind (by decide)) (behind (by decide)) inLeft
      · exact rightIH rightUnbroken (behind (by decide)) (behind (by decide)) inRight

end Tree

/-- The lines of one drawing: guides stand in front of all but the first, and guides hold
spaces, which the first line does not. -/
def IsDrawing (lines : List (List Char)) : Prop :=
  ∃ root below, lines = root :: below ∧ ' ' ∉ root ∧ ∀ line ∈ below, ' ' ∈ line

namespace Tree

variable {tree : Tree}

theorem IsUnbroken.isDrawing (unbroken : tree.IsUnbroken) :
    IsDrawing (Outline.lines [] [] tree.outline) := by
  cases tree with
  | identifier text =>
      refine ⟨_, [], Outline.lines_identifier [] [] text, ?_, by simp⟩
      intro space
      cases unbroken.isRunChar (List.mem_filter.mp space).1
  | compound operator left right =>
      refine ⟨_, _, Outline.lines_compound [] [] operator left right, ?_, ?_⟩
      · cases operator <;> decide
      · intro line member
        rcases List.mem_append.mp member with inLeft | inRight
        · exact space_mem_of_mem_lines (by decide) inLeft
        · exact space_mem_of_mem_lines (by decide) inRight

theorem IsUnbroken.lines_ne (unbroken : tree.IsUnbroken) :
    Outline.lines [] [] tree.outline ≠ [Expression.invalidText.toList] := by
  intro same
  cases tree with
  | identifier text =>
      have sameText := List.cons.inj same
      exact unbroken.withoutControls_canonical_ne sameText.1
  | compound operator left right =>
      have sameKeyword := List.cons.inj same
      cases operator <;> cases sameKeyword.1

end Tree

/-! ## Parsed expressions -/

namespace Expression

/-- The line that the canonical form is printed as. -/
def printed (expression : Expression) : List Char :=
  withoutControls expression.render.toList

/-- The lines that the expression is drawn in. -/
def drawn (expression : Expression) : List (List Char) :=
  Outline.lines [] [] (Outline.ofExpression expression)

end Expression

namespace Expression.IsUnbroken

variable {expression : Expression} (unbroken : expression.IsUnbroken)
include unbroken

theorem printed_eq_invalidText_iff :
    expression.printed = invalidText.toList ↔ expression = .invalid := by
  cases expression with
  | invalid => exact ⟨fun _ => rfl, fun _ => by decide⟩
  | valid tree =>
      have differs := Tree.IsUnbroken.withoutControls_canonical_ne unbroken
      rw [← toList_render_valid] at differs
      exact ⟨fun same => absurd same differs, fun impossible => by cases impossible⟩

theorem not_mem_render {char : Char} (blank : isBlank char = true) (notSpace : char ≠ ' ') :
    char ∉ expression.render.toList := by
  cases expression with
  | invalid =>
      have marks : invalid.render.toList.filter isBlank = [] := by decide
      intro member
      have blankMark := List.mem_filter.mpr ⟨member, blank⟩
      rw [marks] at blankMark
      cases blankMark
  | valid tree =>
      rw [toList_render_valid]
      exact Tree.IsUnbroken.not_mem_canonical unbroken blank notSpace

theorem lineFeed_not_mem_printed : '\n' ∉ expression.printed := fun member =>
  unbroken.not_mem_render (by decide) (by decide) (List.mem_filter.mp member).1

/-- The canonical form of a parsed expression is printed as one line. -/
theorem toList_printedLine_render :
    (printedLine expression.render).toList = expression.printed ++ ['\n'] := by
  have noTab : '\t' ∉ expression.printed := fun member =>
    unbroken.not_mem_render (by decide) (by decide) (List.mem_filter.mp member).1
  exact toList_printedLine noTab

theorem drawn_eq_invalidText_iff :
    expression.drawn = [invalidText.toList] ↔ expression = .invalid := by
  cases expression with
  | invalid => exact ⟨fun _ => rfl, fun _ => rfl⟩
  | valid tree =>
      have differs := Tree.IsUnbroken.lines_ne unbroken
      rw [← Outline.ofTree_eq] at differs
      exact ⟨fun same => absurd same differs, fun impossible => by cases impossible⟩

theorem isDrawing_drawn : IsDrawing expression.drawn := by
  cases expression with
  | invalid => exact ⟨_, [], rfl, by decide, by simp⟩
  | valid tree =>
      have drawing := Tree.IsUnbroken.isDrawing unbroken
      rw [← Outline.ofTree_eq] at drawing
      exact drawing

theorem lineFeed_not_mem_drawn : ∀ line ∈ expression.drawn, '\n' ∉ line := by
  intro line member
  cases expression with
  | invalid =>
      obtain rfl := List.mem_singleton.mp member
      decide
  | valid tree =>
      rw [drawn, Outline.ofExpression, Outline.ofTree_eq] at member
      exact Tree.IsUnbroken.lineFeed_not_mem_of_mem_lines unbroken (by simp) (by simp) member

end Expression.IsUnbroken

end LicenseExpr
