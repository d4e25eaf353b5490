import LicenseExpr.Proofs.Grammar.Acceptance
import LicenseExpr.Proofs.Grammar.Balance
import LicenseExpr.Proofs.Token.Spacing

/-!
# Redundant parentheses

A block in a derived list is an operand there, with a tree of its own, and the
derivation asks nothing of it but this tree.  So any other operand of the same
tree can be exchanged for it, at any place and in any chain.  Parentheses
around an operand, or one pair of two around another, are such an exchange:
the tree stays the same, and the nesting changes by one level at most.
-/

namespace LicenseExpr.Grammar

variable {limit maxDepth otherDepth : Int} {level : Level} {tree : Tree}
  {tokens block other before after inside : List Token}

/-! ## Exchanging an operand -/

/-- The block is an operand, and every operand of the same tree makes the same expression when
it stands between `before` and `after` instead. -/
def Exchangeable (level : Level) (before block after : List Token) (tree : Tree) : Prop :=
  ∃ own, Derives .primary block own ∧ ∀ other, Derives .primary other own →
    Derives level (before ++ (other ++ after)) tree

theorem Exchangeable.of_primary (derives : Derives .primary block tree) :
    Exchangeable .primary [] block [] tree :=
  ⟨tree, derives, fun other sameTree => by simpa using sameTree⟩

/-- What is exchangeable in a part is so in the whole. -/
theorem Exchangeable.imp {outer : Level} {outerBefore outerAfter : List Token} {outerTree : Tree}
    (exchangeable : Exchangeable level before block after tree)
    (whole : ∀ other, Derives level (before ++ (other ++ after)) tree →
      Derives outer (outerBefore ++ (other ++ outerAfter)) outerTree) :
    Exchangeable outer outerBefore block outerAfter outerTree := by
  obtain ⟨own, blockDerives, exchanges⟩ := exchangeable
  exact ⟨own, blockDerives, fun other sameTree => whole other (exchanges other sameTree)⟩

/-- What is exchangeable in either operand of an operator is so in both of them together. -/
theorem Exchangeable.of_operands {leftLevel rightLevel : Level} {operator : Operator}
    {left right : List Token} {leftTree rightTree : Tree} (enclosed : Enclosed block)
    (place : left ++ .operator operator :: right = before ++ (block ++ after))
    (first : Derives leftLevel left leftTree) (last : Derives rightLevel right rightTree)
    (compound : ∀ {left right}, Derives leftLevel left leftTree →
      Derives rightLevel right rightTree → Derives level (left ++ .operator operator :: right) tree)
    (inLeft : ∀ {before after}, left = before ++ (block ++ after) →
      Exchangeable leftLevel before block after leftTree)
    (inRight : ∀ {before after}, right = before ++ (block ++ after) →
      Exchangeable rightLevel before block after rightTree) :
    Exchangeable level before block after tree := by
  rcases enclosed.left_or_right first.balanced id place with
    ⟨rest, leftEq, rfl⟩ | ⟨rest, rightEq, rfl⟩
  · refine (inLeft leftEq).imp fun other exchanged => ?_
    simpa using compound exchanged last
  · refine (inRight rightEq).imp fun other exchanged => ?_
    simpa using compound first exchanged

/-- Wherever a block stands in a derived list, it can be exchanged. -/
theorem Derives.exchangeable (derives : Derives level tokens tree) (enclosed : Enclosed block)
    (place : tokens = before ++ (block ++ after)) :
    Exchangeable level before block after tree := by
  -- The block lies in one part of every production but the one that makes it an operand.
  induction derives generalizing before after with
  | operand chains only ih => exact (ih place).imp fun other => .operand chains
  | license only ih => exact (ih place).imp fun other => .license
  | link chains first last firstIH lastIH =>
      exact .of_operands enclosed place first last (.link chains) firstIH lastIH
  | exception first last firstIH lastIH =>
      exact .of_operands enclosed place first last .exception firstIH lastIH
  | identifier text =>
      obtain ⟨first, others, rfl, -⟩ := enclosed.exists_cons
      obtain ⟨rfl, rfl, rfl, rfl⟩ :
          before = [] ∧ first = .identifier text ∧ others = [] ∧ after = [] := by
        simpa [List.singleton_eq_append_iff] using place
      exact .of_primary (.identifier text)
  | group inner ih =>
      rcases enclosed.whole_or_inside inner.balanced place with
        ⟨rfl, rfl⟩ | ⟨first, last, tokensEq, rfl, rfl⟩
      · rw [List.nil_append, List.append_nil] at place
        exact place ▸ .of_primary (.group inner)
      · refine (ih tokensEq).imp fun other exchanged => ?_
        simpa using Derives.group exchanged

/-- An operand leaves what follows it behind the parentheses that it stands behind itself. -/
theorem Derives.fits_between (derives : Derives .primary block tree) :
    Fits limit 0 (before ++ (block ++ after)) ↔ Fits limit 0 before ∧
      Fits limit (depthAfter 0 before) block ∧ Fits limit (depthAfter 0 before) after := by
  rw [fits_append, fits_append, derives.depthAfter_eq]

/-- A list stays accepted with the same tree when a block in it is exchanged, if the limit has
room for what stands in its place. -/
theorem parse_exchange (accepted : parse maxDepth (before ++ (block ++ after)) = .ok tree)
    (enclosed : Enclosed block)
    (sameTree : ∀ own, Derives .primary block own → Derives .primary other own)
    (limitLe : min maxDepth depthCap ≤ min otherDepth depthCap)
    (otherFits : ∀ depth : Nat, (depth : Int) ≤ max 0 (min maxDepth depthCap) →
      Fits (min maxDepth depthCap) depth block → Fits (min otherDepth depthCap) depth other) :
    parse otherDepth (before ++ (other ++ after)) = .ok tree := by
  obtain ⟨derives, fits⟩ := parse_eq_ok_iff.mp accepted
  obtain ⟨own, blockDerives, exchanges⟩ := derives.exchangeable enclosed rfl
  obtain ⟨beforeFits, blockFits, afterFits⟩ := blockDerives.fits_between.mp fits
  have otherDerives := sameTree own blockDerives
  refine parse_eq_ok_iff.mpr ⟨exchanges other otherDerives, otherDerives.fits_between.mpr ?_⟩
  exact ⟨beforeFits.mono limitLe (by omega),
    otherFits _ beforeFits.depthAfter_le blockFits, afterFits.mono limitLe (by omega)⟩

/-! ## Parentheses around operands -/

theorem Derives.grouped_primary (derives : Derives .primary tokens tree) :
    Derives .primary (grouped tokens) tree :=
  .group (derives.of_primary .orExpr)

theorem parse_grouped_grouped (belowCap : maxDepth < depthCap) (balanced : Balanced inside)
    (accepted : parse maxDepth (before ++ (grouped inside ++ after)) = .ok tree) :
    parse (maxDepth + 1) (before ++ (grouped (grouped inside) ++ after)) = .ok tree := by
  refine parse_exchange accepted (.group balanced) (fun own => Derives.grouped_primary)
    (by omega) fun depth depthLe fits => ?_
  obtain ⟨below, insideFits⟩ := fits_group.mp fits
  refine fits_group.mpr ⟨by omega, fits_group.mpr ⟨by omega, ?_⟩⟩
  exact insideFits.mono (by omega) (by omega)

theorem parse_grouped_identifier (nonneg : 0 ≤ maxDepth) (belowCap : maxDepth < depthCap)
    {text : String}
    (accepted : parse maxDepth (before ++ ([.identifier text] ++ after)) = .ok tree) :
    parse (maxDepth + 1) (before ++ (grouped [.identifier text] ++ after)) = .ok tree := by
  refine parse_exchange accepted (.identifier text) (fun own => Derives.grouped_primary)
    (by omega) fun depth depthLe fits => ?_
  exact fits_group.mpr ⟨by omega, trivial⟩

/-- Of two pairs of parentheses around the same tokens one can go. -/
theorem parse_of_grouped_grouped (balanced : Balanced inside)
    (accepted : parse maxDepth (before ++ (grouped (grouped inside) ++ after)) = .ok tree) :
    parse maxDepth (before ++ (grouped inside ++ after)) = .ok tree := by
  refine parse_exchange accepted (.group balanced.group) (fun own outer => ?_) (Int.le_refl _)
    fun depth depthLe fits => ?_
  · -- The group inside has some tree, which is also a tree of the group around it.
    have inGroup : Exchangeable .primary [.openParen] (grouped inside) [.closeParen] own :=
      outer.exchangeable (.group balanced) rfl
    obtain ⟨other, inner, -⟩ := inGroup
    rwa [outer.tree_unique inner.grouped_primary]
  · obtain ⟨below, groupFits⟩ := fits_group.mp fits
    obtain ⟨-, insideFits⟩ := fits_group.mp groupFits
    exact fits_group.mpr ⟨below, insideFits.mono (by omega) (by omega)⟩

theorem parse_grouped (nonneg : 0 ≤ maxDepth) (belowCap : maxDepth < depthCap)
    (accepted : parse maxDepth tokens = .ok tree) :
    parse (maxDepth + 1) (grouped tokens) = .ok tree := by
  obtain ⟨derives, fits⟩ := parse_eq_ok_iff.mp accepted
  have group : Derives .primary (grouped tokens) tree := .group derives
  refine parse_eq_ok_iff.mpr ⟨group.of_primary .orExpr, fits_group.mpr ⟨by omega, ?_⟩⟩
  exact fits.mono (by omega) (by omega)

theorem tokenize_parenthesized (anyCase : Bool) (text : String) :
    Token.tokenize anyCase ("(" ++ text ++ ")") = grouped (Token.tokenize anyCase text) := by
  calc
    Token.tokenize anyCase ("(" ++ text ++ ")") =
        Token.tokenize anyCase ("" ++ "(" ++ text ++ ")" ++ "") := by
      rw [String.empty_append, String.append_empty]
    _ = Token.tokenize anyCase "" ++ [.openParen] ++ Token.tokenize anyCase text ++
        [.closeParen] ++ Token.tokenize anyCase "" := by
      rw [Token.tokenize_append_delimiter .closeParen, Token.tokenize_append_delimiter .openParen]
    _ = grouped (Token.tokenize anyCase text) := by
      simp [Token.tokenize, Token.scan, grouped]

/-- Parentheses around what is in parentheses already, around an identifier or around a whole
text change no tree, but take one more level of nesting; of two pairs around the same tokens
one can go. -/
theorem parse_ignores_redundant_parentheses (nonneg : 0 ≤ maxDepth) (belowCap : maxDepth ≤ 99) :
    (∀ (before inside after : List Token) (tree : Tree), Balanced inside →
      parse maxDepth (before ++ .openParen :: (inside ++ .closeParen :: after)) = .ok tree →
      parse (maxDepth + 1) (before ++ .openParen :: .openParen ::
        (inside ++ .closeParen :: .closeParen :: after)) = .ok tree) ∧
    (∀ (before after : List Token) (text : String) (tree : Tree),
      parse maxDepth (before ++ .identifier text :: after) = .ok tree →
      parse (maxDepth + 1) (before ++ .openParen :: .identifier text :: .closeParen :: after) =
        .ok tree) ∧
    (∀ (before inside after : List Token) (tree : Tree), Balanced inside →
      parse maxDepth (before ++ .openParen :: .openParen ::
        (inside ++ .closeParen :: .closeParen :: after)) = .ok tree →
      parse maxDepth (before ++ .openParen :: (inside ++ .closeParen :: after)) = .ok tree) ∧
    ∀ (anyCase : Bool) (text : String) (tree : Tree),
      LicenseExpr.parse ⟨maxDepth, anyCase⟩ text = .ok (.valid tree) →
      LicenseExpr.parse ⟨maxDepth + 1, anyCase⟩ ("(" ++ text ++ ")") = .ok (.valid tree) := by
  have belowCap : maxDepth < depthCap := Int.lt_of_le_of_lt belowCap (by decide)
  have once (before inside after : List Token) :
      before ++ .openParen :: (inside ++ .closeParen :: after) =
        before ++ (grouped inside ++ after) := by
    simp [grouped]
  have twice (before inside after : List Token) :
      before ++ .openParen :: .openParen :: (inside ++ .closeParen :: .closeParen :: after) =
        before ++ (grouped (grouped inside) ++ after) := by
    simp [grouped]
  refine ⟨fun before inside after tree balanced => ?_, fun before after text tree => ?_,
    fun before inside after tree balanced => ?_, fun anyCase text tree parsed => ?_⟩
  · rw [once, twice]
    exact parse_grouped_grouped belowCap balanced
  · exact parse_grouped_identifier nonneg belowCap
  · rw [once, twice]
    exact parse_of_grouped_grouped balanced
  · rw [parse_eq_valid_iff, parse?] at parsed ⊢
    rw [tokenize_parenthesized]
    exact parse_grouped nonneg belowCap parsed

/-- The group, the exception and the whole of `a AND (b OR c) WITH d` can be put in
parentheses, and of two pairs around the group one can go. -/
theorem parse_ignores_parentheses_in_chain :
    ∃ tree, tree = .compound .and (.identifier "a") (.compound .exception
      (.compound .or (.identifier "b") (.identifier "c")) (.identifier "d")) ∧
    parse 3 [.identifier "a", .operator .and, .openParen, .openParen, .identifier "b",
      .operator .or, .identifier "c", .closeParen, .closeParen, .operator .exception,
      .identifier "d"] = .ok tree ∧
    parse 3 [.identifier "a", .operator .and, .openParen, .identifier "b", .operator .or,
      .identifier "c", .closeParen, .operator .exception, .openParen, .identifier "d",
      .closeParen] = .ok tree ∧
    parse 2 [.identifier "a", .operator .and, .openParen, .identifier "b", .operator .or,
      .identifier "c", .closeParen, .operator .exception, .identifier "d"] = .ok tree ∧
    LicenseExpr.parse ⟨3, false⟩ ("(" ++ "a AND (b OR c) WITH d" ++ ")") = .ok (.valid tree) := by
  have tokens : Token.tokenize false "a AND (b OR c) WITH d" = [.identifier "a",
      .operator .and, .openParen, .identifier "b", .operator .or, .identifier "c", .closeParen,
      .operator .exception, .identifier "d"] := by
    decide +kernel
  have choice := Derives.link .or ((Derives.identifier "b").of_primary .orExpr)
    ((Derives.identifier "c").of_primary .andExpr)
  have chain {group : List Token} {groupTree : Tree} (derives : Derives .primary group groupTree) :=
    Derives.operand .or (Derives.link .and ((Derives.identifier "a").of_primary .andExpr)
      (Derives.exception derives (.identifier "d")))
  have once : parse 2 [.identifier "a", .operator .and, .openParen, .identifier "b",
      .operator .or, .identifier "c", .closeParen, .operator .exception, .identifier "d"] = _ :=
    parse_eq_ok_iff.mpr ⟨chain (.group choice), by decide, trivial⟩
  have twice : parse 2 [.identifier "a", .operator .and, .openParen, .openParen,
      .identifier "b", .operator .or, .identifier "c", .closeParen, .closeParen,
      .operator .exception, .identifier "d"] = _ :=
    parse_eq_ok_iff.mpr
      ⟨chain (Derives.group choice).grouped_primary, by decide, by decide, trivial⟩
  have parsed : LicenseExpr.parse ⟨2, false⟩ "a AND (b OR c) WITH d" = .ok (.valid _) :=
    parse_eq_valid_iff.mpr ((congrArg (parse 2) tokens).trans once)
  obtain ⟨addPair, addPairAround, dropPair, addPairOutside⟩ :=
    parse_ignores_redundant_parentheses (by decide : (0 : Int) ≤ 2) (by decide)
  refine ⟨_, rfl, ?_, ?_, ?_, addPairOutside false _ _ parsed⟩
  · exact addPair [.identifier "a", .operator .and] _ [.operator .exception, .identifier "d"] _
      choice.balanced once
  · exact addPairAround [.identifier "a", .operator .and, .openParen, .identifier "b",
      .operator .or, .identifier "c", .closeParen, .operator .exception] [] "d" _ once
  · exact dropPair [.identifier "a", .operator .and] _ [.operator .exception, .identifier "d"] _
      choice.balanced twice

end LicenseExpr.Grammar
