import LicenseExpr.Proofs.Tree.Leaves

/-!
# The leaves that name a license

A leaf has a path from the root, left or right at every operator.  It names a
license if its path nowhere turns right at an exception operator.  So the
licenses of a tree do not depend on its exceptions, and without exception
operators every identifier is a license.
-/

namespace LicenseExpr

/-- One of the two operands of an operator. -/
inductive Side where
  | left
  | right
deriving DecidableEq

namespace Tree

variable {operator : Operator} {left right tree : Tree} {path : List Side} {text : String}

/-- What stands at the end of a path from the root, unless the path leaves the tree. -/
def at? : Tree → (path : List Side) → Option Tree
  | tree, [] => some tree
  | .compound _ left _, .left :: path => left.at? path
  | .compound _ _ right, .right :: path => right.at? path
  | .identifier _, _ :: _ => none

/-- The path nowhere turns right at an exception operator. -/
def AvoidsExceptions (tree : Tree) (path : List Side) : Prop :=
  ∀ before after, path = before ++ .right :: after →
    ∀ license exception, tree.at? before ≠ some (.compound .exception license exception)

/-- No path leads to an exception operator. -/
def IsFreeOfExceptions (tree : Tree) : Prop :=
  ∀ path license exception, tree.at? path ≠ some (.compound .exception license exception)

theorem at?_identifier_eq_some_iff {own : String} :
    (identifier own).at? path = some (.identifier text) ↔ path = [] ∧ text = own := by
  cases path <;> simp [at?, eq_comm]

theorem avoidsExceptions_nil : tree.AvoidsExceptions [] := by
  intro before after same
  simp at same

theorem avoidsExceptions_left :
    (compound operator left right).AvoidsExceptions (.left :: path) ↔
      left.AvoidsExceptions path := by
  constructor
  · rintro avoids before after rfl
    exact avoids (.left :: before) after rfl
  · intro avoids before after same
    cases before with
    | nil => cases same
    | cons side before =>
        rw [List.cons_append, List.cons.injEq] at same
        obtain ⟨rfl, same⟩ := same
        exact avoids before after same

theorem avoidsExceptions_right :
    (compound operator left right).AvoidsExceptions (.right :: path) ↔
      operator ≠ .exception ∧ right.AvoidsExceptions path := by
  constructor
  · intro avoids
    refine ⟨?_, ?_⟩
    · rintro rfl
      exact avoids [] path rfl left right rfl
    · rintro before after rfl
      exact avoids (.right :: before) after rfl
  · rintro ⟨notException, avoids⟩ before after same license exception stands
    cases before with
    | nil =>
        cases stands
        exact notException rfl
    | cons side before =>
        rw [List.cons_append, List.cons.injEq] at same
        obtain ⟨rfl, same⟩ := same
        exact avoids before after same license exception stands

theorem isFreeOfExceptions_identifier : (identifier text).IsFreeOfExceptions := by
  intro path license exception stands
  cases path <;> simp [at?] at stands

theorem isFreeOfExceptions_compound :
    (compound operator left right).IsFreeOfExceptions ↔
      operator ≠ .exception ∧ left.IsFreeOfExceptions ∧ right.IsFreeOfExceptions := by
  constructor
  · intro free
    refine ⟨?_, fun path => free (.left :: path), fun path => free (.right :: path)⟩
    rintro rfl
    exact free [] left right rfl
  · rintro ⟨notException, leftFree, rightFree⟩ path license exception stands
    match path with
    | [] =>
        cases stands
        exact notException rfl
    | .left :: path => exact leftFree path license exception stands
    | .right :: path => exact rightFree path license exception stands

/-- A path to a leaf below an operator goes on in one of the operands. -/
theorem exists_path_compound_iff {motive : List Side → Prop} :
    (∃ path, (compound operator left right).at? path = some (.identifier text) ∧ motive path) ↔
      (∃ path, left.at? path = some (.identifier text) ∧ motive (.left :: path)) ∨
        ∃ path, right.at? path = some (.identifier text) ∧ motive (.right :: path) := by
  constructor
  · rintro ⟨path, stands, holds⟩
    match path with
    | [] => cases stands
    | .left :: path => exact .inl ⟨path, stands, holds⟩
    | .right :: path => exact .inr ⟨path, stands, holds⟩
  · rintro (⟨path, stands, holds⟩ | ⟨path, stands, holds⟩)
    · exact ⟨.left :: path, stands, holds⟩
    · exact ⟨.right :: path, stands, holds⟩

/-- A traversal meets the leaves at the end of the paths that it does not leave out. -/
theorem mem_textsMet_iff {skipExceptions : Bool} :
    text ∈ tree.textsMet skipExceptions ↔
      ∃ path, tree.at? path = some (.identifier text) ∧
        (skipExceptions = true → tree.AvoidsExceptions path) := by
  induction tree with
  | identifier own =>
      simp [textsMet, at?_identifier_eq_some_iff, avoidsExceptions_nil, and_assoc]
  | compound operator left right leftIH rightIH =>
      rw [exists_path_compound_iff]
      simp only [avoidsExceptions_left, avoidsExceptions_right]
      -- The traversal leaves out the right operand exactly where no path may turn right.
      by_cases skips : skipExceptions = true ∧ operator = .exception
      · obtain ⟨rfl, rfl⟩ := skips
        simp [textsMet, leftIH]
      · have goesRight (path : List Side) :
            (skipExceptions = true → operator ≠ .exception ∧ right.AvoidsExceptions path) ↔
              (skipExceptions = true → right.AvoidsExceptions path) :=
          forall_congr' fun skipping => and_iff_right fun isException =>
            skips ⟨skipping, isException⟩
        have both : (skipExceptions && operator == .exception) = false := by
          simpa using skips
        simp only [goesRight, textsMet, both, Bool.false_eq_true, if_false, List.mem_append,
          leftIH, rightIH]

theorem mem_texts_iff : text ∈ tree.texts ↔ ∃ path, tree.at? path = some (.identifier text) := by
  rw [← textsMet_false, mem_textsMet_iff]
  simp

/-- Two trees that differ at most in the right operands of exception operators. -/
inductive SameButExceptions : Tree → Tree → Prop where
  | identifier (text : String) : SameButExceptions (.identifier text) (.identifier text)
  | compound (operator : Operator) {left left' right right' : Tree}
      (sameLeft : SameButExceptions left left') (sameRight : SameButExceptions right right') :
      SameButExceptions (.compound operator left right) (.compound operator left' right')
  | exception {license license' : Tree} (same : SameButExceptions license license')
      (exception exception' : Tree) :
      SameButExceptions (.compound .exception license exception)
        (.compound .exception license' exception')

/-- A traversal that skips exceptions does not tell such trees apart. -/
theorem SameButExceptions.textsMet_eq {first second : Tree}
    (same : SameButExceptions first second) : first.textsMet true = second.textsMet true := by
  induction same with
  | identifier text => rfl
  | compound operator _ _ leftIH rightIH => rw [textsMet, textsMet, leftIH, rightIH]
  | exception _ exception exception' ih => simp [textsMet, ih]

end Tree

namespace Expression

open LicenseExpr.Tree

theorem mem_licenseIds_iff {tree : Tree} {text : String} :
    text ∈ (valid tree).licenseIds ↔
      ∃ path, tree.at? path = some (.identifier text) ∧ tree.AvoidsExceptions path := by
  rw [licenseIds, Text.mem_sortedDistinct, leaves_eq, mem_textsMet_iff]
  simp

theorem mem_identifiers_iff {tree : Tree} {text : String} :
    text ∈ (valid tree).identifiers ↔ ∃ path, tree.at? path = some (.identifier text) := by
  rw [identifiers_valid, mem_texts_iff]

/-- The licenses of a tree are the leaves whose paths avoid exceptions.  So they are among the
identifiers, they are all of them if there is no exception operator, and nothing in the right
operand of one has an influence on them. -/
theorem licenseIds_outside_exceptions :
    (∀ (tree : Tree) (text : String), text ∈ (valid tree).licenseIds ↔
      ∃ path, tree.at? path = some (.identifier text) ∧ tree.AvoidsExceptions path) ∧
    (∀ tree : Tree, (valid tree).licenseIds ⊆ (valid tree).identifiers) ∧
    (∀ tree : Tree, tree.IsFreeOfExceptions → ∀ text,
      text ∈ (valid tree).licenseIds ↔ text ∈ (valid tree).identifiers) ∧
    ∀ first second : Tree, SameButExceptions first second →
      (valid first).licenseIds = (valid second).licenseIds := by
  refine ⟨fun _ _ => mem_licenseIds_iff, ?_, ?_, ?_⟩
  · intro tree text member
    obtain ⟨path, stands, -⟩ := mem_licenseIds_iff.mp member
    exact mem_identifiers_iff.mpr ⟨path, stands⟩
  · intro tree free text
    have avoids (path : List Side) : tree.AvoidsExceptions path :=
      fun before _ _ => free before
    rw [mem_licenseIds_iff, mem_identifiers_iff]
    exact exists_congr fun path => and_iff_left (avoids path)
  · intro first second same
    rw [licenseIds, licenseIds, leaves_eq, leaves_eq, same.textsMet_eq]

/-- In `((a WITH c) OR b) WITH a` the licenses are `a` and `b`, as they are with other exceptions
in both places; in `b OR a` they are all identifiers. -/
theorem licenseIds_of_nested_exceptions :
    SameButExceptions
      (.compound .exception (.compound .or (.compound .exception (.identifier "a")
        (.identifier "c")) (.identifier "b")) (.identifier "a"))
      (.compound .exception (.compound .or (.compound .exception (.identifier "a")
        (.compound .and (.identifier "d") (.identifier "e"))) (.identifier "b"))
        (.identifier "f")) ∧
    (valid (.compound .exception (.compound .or (.compound .exception (.identifier "a")
      (.identifier "c")) (.identifier "b")) (.identifier "a"))).licenseIds = ["a", "b"] ∧
    (valid (.compound .exception (.compound .or (.compound .exception (.identifier "a")
      (.compound .and (.identifier "d") (.identifier "e"))) (.identifier "b"))
        (.identifier "f"))).licenseIds = ["a", "b"] ∧
    (compound .or (.identifier "b") (.identifier "a")).IsFreeOfExceptions ∧
    ∀ text, text ∈ (valid (.compound .or (.identifier "b") (.identifier "a"))).licenseIds ↔
      text ∈ ["b", "a"] := by
  obtain ⟨-, -, allOfThem, unchanged⟩ := licenseIds_outside_exceptions
  have same := SameButExceptions.exception (.compound .or (.exception (.identifier "a")
    (.identifier "c") (.compound .and (.identifier "d") (.identifier "e"))) (.identifier "b"))
    (.identifier "a") (.identifier "f")
  have free : (compound .or (.identifier "b") (.identifier "a")).IsFreeOfExceptions :=
    isFreeOfExceptions_compound.mpr ⟨by decide, isFreeOfExceptions_identifier,
      isFreeOfExceptions_identifier⟩
  have found : (valid (.compound .exception (.compound .or (.compound .exception (.identifier "a")
      (.identifier "c")) (.identifier "b")) (.identifier "a"))).licenseIds = ["a", "b"] := by
    cbv
  refine ⟨same, found, (unchanged _ _ same).symm.trans found, free, fun text => ?_⟩
  rw [allOfThem _ free, identifiers_valid]
  rfl

end Expression

end LicenseExpr
