import LicenseExpr.Token

/-!
# Parentheses in lists of tokens

Reading tokens from the left, an opening parenthesis stays open until a
closing parenthesis matches it; a closing parenthesis that finds none open
matches nothing.  This file follows the positions of the open parentheses and
their number, and says when parentheses are nested within a limit.
-/

namespace LicenseExpr.Grammar

variable {limit : Int} {depth index : Nat} {stack : List Nat} {tokens : List Token}

/-- The positions of the parentheses that are open after some more tokens, innermost
first, if those on `stack` are open before them and the first token is at `index`. -/
def openFrom (index : Nat) (stack : List Nat) : List Token → List Nat
  | [] => stack
  | .openParen :: rest => openFrom (index + 1) (index :: stack) rest
  | .closeParen :: rest => openFrom (index + 1) stack.tail rest
  | .identifier _ :: rest | .operator _ :: rest => openFrom (index + 1) stack rest

/-- The positions of the opening parentheses that no closing one matches, last first. -/
def openParens (tokens : List Token) : List Nat :=
  openFrom 0 [] tokens

/-- Every opening parenthesis stands behind fewer than `limit` that are still open. -/
def NestedWithin (limit : Int) (tokens : List Token) : Prop :=
  ∀ before after, tokens = before ++ .openParen :: after →
    ((openParens before).length : Int) < limit

/-- The number of open parentheses after some more tokens. -/
def depthAfter (depth : Nat) : List Token → Nat
  | [] => depth
  | .openParen :: rest => depthAfter (depth + 1) rest
  | .closeParen :: rest => depthAfter (depth - 1) rest
  | .identifier _ :: rest | .operator _ :: rest => depthAfter depth rest

/-- Some more tokens behind `depth` open parentheses are nested within a limit. -/
def Fits (limit : Int) (depth : Nat) : List Token → Prop
  | [] => True
  | .openParen :: rest => (depth : Int) < limit ∧ Fits limit (depth + 1) rest
  | .closeParen :: rest => Fits limit (depth - 1) rest
  | .identifier _ :: rest | .operator _ :: rest => Fits limit depth rest

@[simp]
theorem openFrom_append (first second : List Token) :
    openFrom index stack (first ++ second) =
      openFrom (index + first.length) (openFrom index stack first) second := by
  induction first generalizing index stack with
  | nil => rfl
  | cons token first ih =>
      cases token <;> simp [openFrom, ih, Nat.add_assoc, Nat.add_comm 1]

@[simp]
theorem length_openFrom (tokens : List Token) :
    (openFrom index stack tokens).length = depthAfter stack.length tokens := by
  induction tokens generalizing index stack with
  | nil => rfl
  | cons token tokens ih => cases token <;> simp [openFrom, depthAfter, ih]

@[simp]
theorem depthAfter_append (first second : List Token) :
    depthAfter depth (first ++ second) = depthAfter (depthAfter depth first) second := by
  induction first generalizing depth with
  | nil => rfl
  | cons token first ih => cases token <;> simp [depthAfter, ih]

@[simp]
theorem fits_append (first second : List Token) :
    Fits limit depth (first ++ second) ↔
      Fits limit depth first ∧ Fits limit (depthAfter depth first) second := by
  induction first generalizing depth with
  | nil => simp [Fits, depthAfter]
  | cons token first ih => cases token <;> simp [Fits, depthAfter, ih, and_assoc]

theorem fits_group :
    Fits limit depth (.openParen :: (tokens ++ [.closeParen])) ↔
      (depth : Int) < limit ∧ Fits limit (depth + 1) tokens := by
  simp only [Fits, fits_append, and_true]

theorem fits_replicate_closeParen (count : Nat) :
    Fits limit depth (.replicate count .closeParen) := by
  induction count generalizing depth with
  | zero => trivial
  | succ count ih => exact ih

theorem fits_of_length_le (roomy : ((depth + tokens.length : Nat) : Int) ≤ limit) :
    Fits limit depth tokens := by
  induction tokens generalizing depth with
  | nil => trivial
  | cons token tokens ih =>
      simp only [List.length_cons] at roomy
      cases token with
      | identifier text => exact ih (by omega)
      | operator operator => exact ih (by omega)
      | openParen => exact ⟨by omega, ih (by omega)⟩
      | closeParen => exact ih (by omega)

/-- Nesting that is allowed stays so where the limit grows at least as much as the depth. -/
theorem Fits.mono {otherLimit : Int} {otherDepth : Nat} (fits : Fits limit depth tokens)
    (limitLe : limit ≤ otherLimit) (depthLe : (otherDepth : Int) - depth ≤ otherLimit - limit) :
    Fits otherLimit otherDepth tokens := by
  induction tokens generalizing depth otherDepth with
  | nil => trivial
  | cons token tokens ih =>
      cases token with
      | identifier text => exact ih fits depthLe
      | operator operator => exact ih fits depthLe
      | openParen =>
          obtain ⟨below, fits⟩ := fits
          exact ⟨by omega, ih fits (by omega)⟩
      | closeParen => exact ih fits (by omega)

/-- Parentheses that are nested within a limit are not more than the limit in the end. -/
theorem Fits.depthAfter_le (fits : Fits limit depth tokens) :
    (depthAfter depth tokens : Int) ≤ max (depth : Int) limit := by
  induction tokens generalizing depth with
  | nil => exact Int.le_max_left ..
  | cons token tokens ih =>
      cases token with
      | identifier text => exact ih fits
      | operator operator => exact ih fits
      | openParen =>
          obtain ⟨below, fits⟩ := fits
          have later := ih fits
          rw [depthAfter]
          omega
      | closeParen =>
          have later : (depthAfter (depth - 1) tokens : Int) ≤ max ↑(depth - 1) limit := ih fits
          rw [depthAfter]
          omega

private theorem fits_iff_forall :
    Fits limit depth tokens ↔
      ∀ before after, tokens = before ++ .openParen :: after →
        (depthAfter depth before : Int) < limit := by
  constructor
  · rintro fits before after rfl
    simp only [fits_append, Fits] at fits
    exact fits.2.1
  · intro below
    induction tokens generalizing depth with
    | nil => trivial
    | cons token tokens ih =>
        have belowLater : Fits limit (depthAfter depth [token]) tokens := by
          refine ih fun before after same => ?_
          have := below (token :: before) after (by simp [same])
          rwa [← List.singleton_append, depthAfter_append] at this
        cases token with
        | openParen => exact ⟨below [] tokens rfl, belowLater⟩
        | _ => exact belowLater

theorem nestedWithin_iff_fits : NestedWithin limit tokens ↔ Fits limit 0 tokens := by
  simp [NestedWithin, openParens, fits_iff_forall]

end LicenseExpr.Grammar
