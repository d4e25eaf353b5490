import LicenseExpr.Tree.Comparison

/-!
# What the comparison of trees decides

The answer is yes when every pending pair is twice the same tree.  Passing
over pairs that are known to be the same does not change it, so the comparison
of two expressions is their equality.
-/

namespace LicenseExpr

namespace Tree

/-- Only pairs of the same tree are known to be the same. -/
def Truthful (known : List (Tree × Tree) → Bool) : Prop :=
  ∀ pair rest, known (pair :: rest) = true → pair.1 = pair.2

variable {known : List (Tree × Tree) → Bool}

theorem agree_iff (truthful : Truthful known) (pending : List (Tree × Tree)) :
    agree known pending = true ↔ ∀ pair ∈ pending, pair.1 = pair.2 := by
  fun_induction agree known pending with
  | case1 => simp
  | case2 first second rest isKnown ih =>
      have equal := truthful (first, second) rest isKnown
      rw [ih, List.forall_mem_cons]
      exact (and_iff_right equal).symm
  | case3 rest operator left right left' right' notKnown ih =>
      simp only [List.forall_mem_cons] at ih ⊢
      rw [ih, compound.injEq, and_iff_right rfl, and_assoc]
  | case4 rest operator left right operator' left' right' different notKnown =>
      simp [different]
  | case5 rest text notKnown ih =>
      rw [ih, List.forall_mem_cons, and_iff_right rfl]
  | case6 rest text text' different notKnown => simp [different]
  | case7 first second rest notKnown notCompounds notIdentifiers =>
      have different : first ≠ second := by
        rintro rfl
        cases first with
        | identifier text => exact notIdentifiers text text rfl rfl
        | compound operator left right =>
            exact notCompounds operator left right operator left right rfl rfl
      simp [different]

theorem truthful_never : Truthful fun _ => false := by
  intro pair rest isKnown
  cases isKnown

theorem same_iff {first second : Tree} : first.same second = true ↔ first = second := by
  rw [same, agree_iff truthful_never, List.forall_mem_singleton]

end Tree

namespace Expression

theorem same_iff {first second : Expression} : first.same second = true ↔ first = second := by
  cases first <;> cases second <;> simp [same, Tree.same_iff]

end Expression

end LicenseExpr
