import Mathlib.Data.List.TakeWhile
import LicenseExpr.Token.Lexer

/-!
# Words and their spellings

A run of characters ends at every delimiter, so a text is cut into tokens on
both sides of a delimiter independently.  The identifiers that come out are
unbroken words other than keywords, and a list of tokens with such identifiers
can be spelled: the spellings, with single spaces between them, are cut into
the same tokens again.  Where keywords are accepted in one case only, a run is
spelled as it was, so the spellings of the tokens of a text are the text
without its blanks.
-/

namespace LicenseExpr.Token

open LicenseExpr.Text

variable {anyCase : Bool} {delimiter : Char} {run rest : List Char} {tokens : List Token}

/-- A text that is an identifier: not empty, without blanks and parentheses, and not a
keyword, nor a keyword in upper case where that counts. -/
structure IsIdentifier (anyCase : Bool) (text : String) : Prop where
  ne_empty : text ≠ ""
  unbroken : ∀ char ∈ text.toList, isBlank char = false ∧ char ≠ '(' ∧ char ≠ ')'
  not_keyword : ∀ operator : Operator,
    (if anyCase then upper text.toList else text.toList) ≠ operator.keyword.toList

/-- A token that can be spelled. -/
def IsSpellable (anyCase : Bool) : Token → Prop
  | .identifier text => IsIdentifier anyCase text
  | .operator _ | .openParen | .closeParen => True

/-- The spellings of some tokens with single spaces between them. -/
def spaced (tokens : List Token) : List Char :=
  [' '].intercalate (tokens.map spelling)

theorem isRunChar_iff {char : Char} :
    isRunChar char = true ↔ isBlank char = false ∧ char ≠ '(' ∧ char ≠ ')' := by
  simp [isRunChar, and_assoc]

theorem keyword?_eq_none_iff :
    keyword? anyCase run = none ↔
      ∀ operator : Operator, (if anyCase then upper run else run) ≠ operator.keyword.toList := by
  simp [keyword?, Option.eq_none_iff_forall_ne_some, Operator.ofKeyword?_eq_some_iff]

theorem keyword?_keyword (operator : Operator) :
    keyword? anyCase operator.keyword.toList = some operator := by
  cases anyCase <;> cases operator <;> decide

theorem isRunChar_of_mem_keyword {operator : Operator} :
    ∀ char ∈ operator.keyword.toList, isRunChar char = true := by
  apply List.all_eq_true.mp
  cases operator <;> decide

/-! ## Cutting at delimiters -/

private theorem takeWhile_append_delimiter (ends : isRunChar delimiter = false) :
    (run ++ delimiter :: rest).takeWhile isRunChar = run.takeWhile isRunChar := by
  induction run with
  | nil => simp [ends]
  | cons char run ih => simp only [List.cons_append, List.takeWhile_cons, ih]

private theorem dropWhile_append_delimiter (ends : isRunChar delimiter = false) :
    (run ++ delimiter :: rest).dropWhile isRunChar =
      run.dropWhile isRunChar ++ delimiter :: rest := by
  induction run with
  | nil => simp [ends]
  | cons char run ih =>
      simp only [List.cons_append, List.dropWhile_cons, ih]
      split <;> rfl

theorem scan_blank {char : Char} (blank : isBlank char = true) :
    scan anyCase (char :: rest) = scan anyCase rest := by
  rw [scan, if_pos blank]

theorem scan_openParen : scan anyCase ('(' :: rest) = .openParen :: scan anyCase rest := by
  rw [scan, if_neg (by decide), if_pos rfl]

theorem scan_closeParen : scan anyCase (')' :: rest) = .closeParen :: scan anyCase rest := by
  rw [scan, if_neg (by decide), if_neg (by decide), if_pos rfl]

theorem scan_run {char : Char} (isRun : isRunChar char = true) :
    scan anyCase (char :: rest) =
      ofRun anyCase (char :: rest.takeWhile isRunChar) ::
        scan anyCase (rest.dropWhile isRunChar) := by
  obtain ⟨notBlank, notOpen, notClose⟩ := isRunChar_iff.mp isRun
  rw [scan, if_neg (by simp [notBlank]), if_neg notOpen, if_neg notClose]

/-- No run goes on over a delimiter. -/
theorem scan_append_delimiter (text : List Char) (ends : isRunChar delimiter = false) :
    scan anyCase (text ++ delimiter :: rest) =
      scan anyCase text ++ scan anyCase (delimiter :: rest) := by
  fun_induction scan anyCase text with
  | case1 => rfl
  | case2 char text blank ih => rw [List.cons_append, scan_blank blank, ih]
  | case3 text blank ih => rw [List.cons_append, scan_openParen, ih, List.cons_append]
  | case4 text blank notOpen ih => rw [List.cons_append, scan_closeParen, ih, List.cons_append]
  | case5 char text notBlank notOpen notClose ih =>
      have isRun : isRunChar char = true :=
        isRunChar_iff.mpr ⟨by simpa using notBlank, notOpen, notClose⟩
      rw [List.cons_append, scan_run isRun, takeWhile_append_delimiter ends,
        dropWhile_append_delimiter ends, ih, List.cons_append]

theorem scan_eq_ofRun (nonempty : run ≠ []) (isRun : ∀ char ∈ run, isRunChar char = true) :
    scan anyCase run = [ofRun anyCase run] := by
  cases run with
  | nil => exact absurd rfl nonempty
  | cons char run =>
      have laterRun : ∀ char ∈ run, isRunChar char = true := fun char member =>
        isRun char (List.mem_cons_of_mem _ member)
      have takesAll : run.takeWhile isRunChar = run := List.takeWhile_eq_self_iff.mpr laterRun
      have dropsAll : run.dropWhile isRunChar = [] := List.dropWhile_eq_nil_iff.mpr laterRun
      rw [scan_run (isRun char List.mem_cons_self), takesAll, dropsAll, scan]

/-! ## Identifiers and spellings -/

theorem isIdentifier_of_mem_scan {text : String} {chars : List Char}
    (member : .identifier text ∈ scan anyCase chars) : IsIdentifier anyCase text := by
  fun_induction scan anyCase chars with
  | case1 => simp at member
  | case2 char rest blank ih => exact ih member
  | case3 rest blank ih => exact ih (by simpa using member)
  | case4 rest blank notOpen ih => exact ih (by simpa using member)
  | case5 char rest notBlank notOpen notClose ih =>
      rcases List.mem_cons.mp member with isRun | later
      · rw [ofRun] at isRun
        split at isRun
        case h_1 => cases isRun
        case h_2 noKeyword =>
          cases isRun
          refine ⟨by simp [String.ext_iff], ?_, ?_⟩
          · intro other otherMember
            rw [String.toList_ofList] at otherMember
            rcases List.mem_cons.mp otherMember with rfl | otherMember
            · exact ⟨by simpa using notBlank, notOpen, notClose⟩
            · exact isRunChar_iff.mp (List.all_eq_true.mp List.all_takeWhile _ otherMember)
          · rw [String.toList_ofList]
            exact keyword?_eq_none_iff.mp noKeyword
      · exact ih later

theorem scan_spelling {token : Token} (spellable : IsSpellable anyCase token) :
    scan anyCase token.spelling = [token] := by
  cases token with
  | identifier text =>
      obtain ⟨nonempty, unbroken, notKeyword⟩ := spellable
      have noKeyword : keyword? anyCase text.toList = none := keyword?_eq_none_iff.mpr notKeyword
      rw [spelling, scan_eq_ofRun (by simpa using nonempty)
        fun char member => isRunChar_iff.mpr (unbroken char member)]
      simp [ofRun, noKeyword]
  | operator operator =>
      rw [spelling, scan_eq_ofRun (by cases operator <;> decide) isRunChar_of_mem_keyword]
      simp [ofRun, keyword?_keyword]
  | openParen => rw [spelling, scan_openParen, scan]
  | closeParen => rw [spelling, scan_closeParen, scan]

/-- What is spelled with spaces is cut into the same tokens. -/
theorem scan_spaced (spellable : ∀ token ∈ tokens, IsSpellable anyCase token) :
    scan anyCase (spaced tokens) = tokens := by
  induction tokens with
  | nil => simp [spaced, scan]
  | cons token tokens ih =>
      have first := scan_spelling (spellable token List.mem_cons_self)
      have later := ih fun token member => spellable token (List.mem_cons_of_mem _ member)
      cases tokens with
      | nil => simpa [spaced] using first
      | cons next tokens =>
          have split : spaced (token :: next :: tokens) =
              token.spelling ++ ' ' :: spaced (next :: tokens) := by
            simp [spaced, List.intercalate_cons_cons]
          rw [split, scan_append_delimiter _ (by decide), first, scan_blank (by decide), later,
            List.singleton_append]

theorem isSpellable_of_mem_scan {token : Token} {chars : List Char}
    (member : token ∈ scan anyCase chars) : token.IsSpellable anyCase := by
  cases token with
  | identifier text => exact isIdentifier_of_mem_scan member
  | _ => trivial

/-! ## Nothing is lost -/

theorem spelling_ofRun (run : List Char) : (ofRun false run).spelling = run := by
  rw [ofRun]
  split
  case h_1 operator isKeyword => exact (Operator.ofKeyword?_eq_some_iff.mp isKeyword).symm
  case h_2 noKeyword => exact String.toList_ofList

/-- A run is a piece of a text without its blanks. -/
theorem filter_not_isBlank (text : List Char) :
    text.filter (!isBlank ·) =
      text.takeWhile isRunChar ++ (text.dropWhile isRunChar).filter (!isBlank ·) := by
  have runKept : (text.takeWhile isRunChar).filter (!isBlank ·) = text.takeWhile isRunChar := by
    rw [List.filter_eq_self]
    intro char member
    have isRun := List.all_eq_true.mp List.all_takeWhile char member
    simp [(isRunChar_iff.mp isRun).1]
  calc
    text.filter (!isBlank ·) =
        (text.takeWhile isRunChar ++ text.dropWhile isRunChar).filter (!isBlank ·) := by
      rw [List.takeWhile_append_dropWhile]
    _ = text.takeWhile isRunChar ++ (text.dropWhile isRunChar).filter (!isBlank ·) := by
      rw [List.filter_append, runKept]

/-- With keywords in one case only the tokens spell the text without its blanks. -/
theorem flatMap_spelling_scan (text : List Char) :
    (scan false text).flatMap spelling = text.filter (!isBlank ·) := by
  fun_induction scan false text with
  | case1 => rfl
  | case2 char rest blank ih => simp [blank, ih]
  | case3 rest blank ih => simp [spelling, blank, ih]
  | case4 rest blank notOpen ih => simp [spelling, blank, ih]
  | case5 char rest notBlank notOpen notClose ih =>
      rw [List.flatMap_cons, spelling_ofRun, ih, List.filter_cons_of_pos (by simpa using notBlank),
        filter_not_isBlank rest, List.cons_append]

/-- The tokens of a text can be spelled, tokens that can be spelled are those of their
spellings with spaces, and with keywords in one case only no character of a text is lost but
its blanks. -/
theorem tokenize_inverts_spelling :
    (∀ anyCase text, ∀ token ∈ tokenize anyCase text, token.IsSpellable anyCase) ∧
    (∀ anyCase tokens, (∀ token ∈ tokens, token.IsSpellable anyCase) →
      tokenize anyCase (String.ofList (spaced tokens)) = tokens) ∧
    ∀ text, (tokenize false text).flatMap spelling = text.toList.filter (!isBlank ·) := by
  refine ⟨fun anyCase text token => isSpellable_of_mem_scan, ?_,
    fun text => flatMap_spelling_scan text.toList⟩
  intro anyCase tokens spellable
  rw [tokenize, String.toList_ofList, scan_spaced spellable]

end LicenseExpr.Token
