import Mathlib.Logic.Relation
import LicenseExpr.Parsing
import LicenseExpr.Proofs.Token.Words

/-!
# Blanks between tokens

Blanks and parentheses delimit words: nothing that stands before a delimiter
has a part in what is read after it.  So the tokens of a text are those before
a delimiter, the delimiter itself if it is a parenthesis, and those after it.

Blanks matter only where they part two words.  `Respaced` lists the changes of
a text that add blanks elsewhere or put some blanks in the place of others;
texts that such changes lead to from each other, back and forth and in any
number, stand for the same expression.
-/

namespace LicenseExpr

open LicenseExpr.Text

/-- A text of nothing but blanks. -/
def AllBlank (text : String) : Prop :=
  ∀ char ∈ text.toList, isBlank char = true

namespace Token

variable {anyCase : Bool} {blanks : String} {own : List Token}

theorem scan_blanks_append {chars rest : List Char} (blank : ∀ char ∈ chars, isBlank char = true) :
    scan anyCase (chars ++ rest) = scan anyCase rest := by
  induction chars with
  | nil => rfl
  | cons char chars ih =>
      obtain ⟨charBlank, laterBlank⟩ := List.forall_mem_cons.mp blank
      rw [List.cons_append, scan_blank charBlank, ih laterBlank]

/-- The texts that part what stands before them from what stands after them, with the tokens
that they are themselves. -/
inductive Delimits : String → List Token → Prop where
  | blanks {text : String} (nonempty : text ≠ "") (blank : AllBlank text) : Delimits text []
  | openParen : Delimits "(" [.openParen]
  | closeParen : Delimits ")" [.closeParen]

theorem tokenize_append_delimiter {delimiter : String} (delimits : Delimits delimiter own)
    (before after : String) :
    tokenize anyCase (before ++ delimiter ++ after) =
      tokenize anyCase before ++ own ++ tokenize anyCase after := by
  simp only [tokenize, String.toList_append, List.append_assoc]
  cases delimits with
  | blanks nonempty blank =>
      obtain ⟨char, chars, delimiterEq⟩ :=
        List.exists_cons_of_ne_nil (String.toList_eq_nil_iff.not.mpr nonempty)
      rw [AllBlank, delimiterEq] at blank
      have ends : isRunChar char = false := by simp [isRunChar, blank char List.mem_cons_self]
      rw [delimiterEq, List.cons_append, scan_append_delimiter _ ends, ← List.cons_append,
        scan_blanks_append blank, List.nil_append]
  | openParen =>
      have opened : scan anyCase ('(' :: after.toList) = .openParen :: scan anyCase after.toList :=
        scan_openParen
      exact (scan_append_delimiter _ (by decide)).trans (congrArg _ opened)
  | closeParen =>
      have closed : scan anyCase (')' :: after.toList) = .closeParen :: scan anyCase after.toList :=
        scan_closeParen
      exact (scan_append_delimiter _ (by decide)).trans (congrArg _ closed)

theorem tokenize_blanks_append (blank : AllBlank blanks) (text : String) :
    tokenize anyCase (blanks ++ text) = tokenize anyCase text := by
  rw [tokenize, String.toList_append, scan_blanks_append blank, tokenize]

theorem tokenize_append_blanks (blank : AllBlank blanks) (text : String) :
    tokenize anyCase (text ++ blanks) = tokenize anyCase text := by
  by_cases nonempty : blanks = ""
  · rw [nonempty, String.append_empty]
  · have parted : tokenize anyCase (text ++ blanks ++ "") =
        tokenize anyCase text ++ [] ++ tokenize anyCase "" :=
      tokenize_append_delimiter (.blanks nonempty blank) text ""
    simpa [tokenize, scan] using parted

end Token

/-! ## Changing the blanks of a text -/

/-- The second text is the first with some blanks more, at an end or next to a parenthesis, or
with other blanks in the place of some. -/
inductive Respaced : String → String → Prop where
  | atStart {blanks : String} (blank : AllBlank blanks) (text : String) :
      Respaced text (blanks ++ text)
  | atEnd {blanks : String} (blank : AllBlank blanks) (text : String) :
      Respaced text (text ++ blanks)
  | beforeParen {blanks paren : String} (blank : AllBlank blanks)
      (isParen : paren = "(" ∨ paren = ")") (before after : String) :
      Respaced (before ++ paren ++ after) (before ++ blanks ++ paren ++ after)
  | afterParen {blanks paren : String} (blank : AllBlank blanks)
      (isParen : paren = "(" ∨ paren = ")") (before after : String) :
      Respaced (before ++ paren ++ after) (before ++ paren ++ (blanks ++ after))
  | between {blanks others : String} (nonempty : blanks ≠ "") (blank : AllBlank blanks)
      (othersNonempty : others ≠ "") (othersBlank : AllBlank others) (before after : String) :
      Respaced (before ++ blanks ++ after) (before ++ others ++ after)

namespace Token

variable {anyCase : Bool} {first second paren : String}

theorem exists_delimits (isParen : paren = "(" ∨ paren = ")") :
    ∃ own, Delimits paren own := by
  rcases isParen with rfl | rfl
  · exact ⟨_, .openParen⟩
  · exact ⟨_, .closeParen⟩

/-- One change of the blanks keeps the tokens. -/
theorem tokenize_eq_of_respaced (respaced : Respaced first second) :
    tokenize anyCase first = tokenize anyCase second := by
  cases respaced with
  | atStart blank text => exact (tokenize_blanks_append blank first).symm
  | atEnd blank text => exact (tokenize_append_blanks blank first).symm
  | beforeParen blank isParen before after =>
      obtain ⟨own, delimits⟩ := exists_delimits isParen
      rw [tokenize_append_delimiter delimits, tokenize_append_delimiter delimits,
        tokenize_append_blanks blank]
  | afterParen blank isParen before after =>
      obtain ⟨own, delimits⟩ := exists_delimits isParen
      rw [tokenize_append_delimiter delimits, tokenize_append_delimiter delimits,
        tokenize_blanks_append blank]
  | between nonempty blank othersNonempty othersBlank before after =>
      rw [tokenize_append_delimiter (.blanks nonempty blank),
        tokenize_append_delimiter (.blanks othersNonempty othersBlank)]

theorem tokenize_eq_of_eqvGen (respaced : Relation.EqvGen Respaced first second) :
    tokenize anyCase first = tokenize anyCase second := by
  induction respaced with
  | rel first second respaced => exact tokenize_eq_of_respaced respaced
  | refl text => rfl
  | symm first second respaced ih => exact ih.symm
  | trans first second third _ _ ih laterIH => exact ih.trans laterIH

end Token

/-- A text is cut into tokens on both sides of a delimiter independently, so changes of its
blanks do not change what the text stands for as long as words that blanks part are parted by
some blanks. -/
theorem tokenize_splits_at_delimiters :
    (∀ anyCase before after blanks, blanks ≠ "" → AllBlank blanks →
      Token.tokenize anyCase (before ++ blanks ++ after) =
        Token.tokenize anyCase before ++ Token.tokenize anyCase after) ∧
    (∀ anyCase before after, Token.tokenize anyCase (before ++ "(" ++ after) =
      Token.tokenize anyCase before ++ [.openParen] ++ Token.tokenize anyCase after) ∧
    (∀ anyCase before after, Token.tokenize anyCase (before ++ ")" ++ after) =
      Token.tokenize anyCase before ++ [.closeParen] ++ Token.tokenize anyCase after) ∧
    ∀ options first second, Relation.EqvGen Respaced first second →
      parse options first = parse options second := by
  refine ⟨fun anyCase before after blanks nonempty blank => ?_,
    fun anyCase => Token.tokenize_append_delimiter .openParen,
    fun anyCase => Token.tokenize_append_delimiter .closeParen,
    fun options first second respaced => ?_⟩
  · rw [Token.tokenize_append_delimiter (.blanks nonempty blank), List.append_nil]
  · rw [parse, parse, parse?, parse?, Token.tokenize_eq_of_eqvGen respaced]

end LicenseExpr
