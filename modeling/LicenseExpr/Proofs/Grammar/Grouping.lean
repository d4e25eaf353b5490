import LicenseExpr.Proofs.Grammar.InOrder
import LicenseExpr.Proofs.Token.Words

/-!
# The trees that expressions have

Parentheses add no node to a tree, but some operands cannot do without them.
The nesting that a tree needs is known from its operators alone: no derivation
of the tree has less, and with a group around exactly the operands that need
one the tree is derived.  So a tree is the tree of some text exactly when its
leaves can be identifiers and the nesting that it needs is allowed.
-/

namespace LicenseExpr

namespace Tree

/-- Whether an operand on the left or the right of an operator needs parentheses. -/
def needsGroup (operator : Operator) (isRight : Bool) : Tree → Bool
  | .identifier _ => false
  | .compound inner _ _ =>
      match operator with
      | .or => isRight && inner == .or
      | .and => inner == .or || isRight && inner == .and
      | .exception => true

/-- The depth of parentheses that a tree needs: the most operands in need of them on a way
from the root to a leaf. -/
def nesting : Tree → Nat
  | .identifier _ => 0
  | .compound operator left right =>
      max (left.nesting + (left.needsGroup operator false).toNat)
        (right.nesting + (right.needsGroup operator true).toNat)

end Tree

namespace Grammar

variable {limit : Int} {depth : Nat} {tokens : List Token} {tree : Tree}
  {level operand : Level} {operator : Operator}

instance (level : Level) (operator : Operator) : Decidable (level.Takes operator) :=
  match level with
  | .orExpr => .isTrue trivial
  | .andExpr => inferInstanceAs (Decidable (operator ≠ .or))
  | .withExpr => inferInstanceAs (Decidable (operator = .exception))
  | .primary => .isFalse id

def leftLevel : Operator → Level
  | .or => .orExpr
  | .and => .andExpr
  | .exception => .primary

def rightLevel : Operator → Level
  | .or => .andExpr
  | .and => .withExpr
  | .exception => .primary

/-- The groups around a tree at a level: one if it has an operator that is too loose. -/
def groupsAt (level : Level) : Tree → Nat
  | .identifier _ => 0
  | .compound operator _ _ => if level.Takes operator then 0 else 1

theorem groupsAt_le_one (level : Level) (tree : Tree) : groupsAt level tree ≤ 1 := by
  cases tree with
  | identifier text => exact Nat.zero_le 1
  | compound operator left right =>
      rw [groupsAt]
      split <;> omega

theorem groupsAt_compound {left right : Tree} (takes : level.Takes operator) :
    groupsAt level (.compound operator left right) = 0 :=
  if_pos takes

theorem groupsAt_orExpr (tree : Tree) : groupsAt .orExpr tree = 0 := by
  cases tree with
  | identifier text => rfl
  | compound operator left right => exact groupsAt_compound trivial

theorem groupsAt_mono {tighter : Level} (takes : ∀ operator, tighter.Takes operator →
    level.Takes operator) (tree : Tree) : groupsAt level tree ≤ groupsAt tighter tree := by
  cases tree with
  | identifier text => exact Nat.le_refl 0
  | compound operator left right =>
      have := takes operator
      simp only [groupsAt]
      split <;> split <;> simp_all

theorem toNat_needsGroup_left (operator : Operator) (tree : Tree) :
    (tree.needsGroup operator false).toNat = groupsAt (leftLevel operator) tree := by
  rcases tree with text | ⟨inner, left, right⟩
  · rfl
  · cases operator <;> cases inner <;> rfl

theorem toNat_needsGroup_right (operator : Operator) (tree : Tree) :
    (tree.needsGroup operator true).toNat = groupsAt (rightLevel operator) tree := by
  rcases tree with text | ⟨inner, left, right⟩
  · rfl
  · cases operator <;> cases inner <;> rfl

theorem nesting_compound (operator : Operator) (left right : Tree) :
    (Tree.compound operator left right).nesting =
      max (left.nesting + groupsAt (leftLevel operator) left)
        (right.nesting + groupsAt (rightLevel operator) right) := by
  rw [Tree.nesting, toNat_needsGroup_left, toNat_needsGroup_right]

theorem Chains.leftLevel_eq (chains : Chains level operand operator) :
    leftLevel operator = level := by
  cases chains <;> rfl

theorem Chains.rightLevel_eq (chains : Chains level operand operator) :
    rightLevel operator = operand := by
  cases chains <;> rfl

/-! ## No derivation has less nesting -/

/-- A derivation has as many open parentheses somewhere as its tree needs. -/
theorem Derives.nesting_le (derives : Derives level tokens tree)
    (fits : Fits limit depth tokens) :
    ((depth + (tree.nesting + groupsAt level tree) : Nat) : Int) ≤ max (depth : Int) limit := by
  induction derives generalizing depth with
  | @operand level operand operator tokens tree chains only ih =>
      have fewer := groupsAt_mono (fun other taken => chains.takes_iff.mpr (.inr taken)) tree
      have := ih fits
      omega
  | @link level operand operator left right leftTree rightTree chains first last firstIH lastIH =>
      rw [first.fits_operator] at fits
      have leftLe := firstIH fits.1
      have rightLe := lastIH fits.2
      rw [groupsAt_compound chains.takes, nesting_compound, chains.leftLevel_eq,
        chains.rightLevel_eq]
      omega
  | @license tokens tree only ih =>
      have fewer : groupsAt .withExpr tree ≤ groupsAt .primary tree :=
        groupsAt_mono (fun _ => False.elim) tree
      have := ih fits
      omega
  | @exception license exception licenseTree exceptionTree first last firstIH lastIH =>
      rw [first.fits_operator] at fits
      have leftLe := firstIH fits.1
      have rightLe := lastIH fits.2
      have takes : Level.withExpr.Takes .exception := rfl
      rw [groupsAt_compound takes, nesting_compound, leftLevel, rightLevel]
      omega
  | identifier text =>
      simp only [Tree.nesting, groupsAt]
      omega
  | @group tokens tree inner ih =>
      rw [fits_group] at fits
      -- Inside, no operator is too loose; outside, this is the one group that is needed.
      have inside := ih fits.2
      have atMostOne := groupsAt_le_one .primary tree
      rw [groupsAt_orExpr] at inside
      have := fits.1
      omega

/-! ## The nesting suffices -/

/-- The tokens of a tree at a level, with a group wherever one is needed. -/
def spelled (level : Level) : Tree → List Token
  | .identifier text => [.identifier text]
  | .compound operator left right =>
      let body := spelled (leftLevel operator) left ++
        .operator operator :: spelled (rightLevel operator) right
      if level.Takes operator then body else .openParen :: (body ++ [.closeParen])

/-- Two operands with their operator are an expression of every level that takes the
operator. -/
theorem Derives.compound {left right : List Token} {leftTree rightTree : Tree}
    (takes : level.Takes operator) (leftDerives : Derives (leftLevel operator) left leftTree)
    (rightDerives : Derives (rightLevel operator) right rightTree) :
    Derives level (left ++ .operator operator :: right)
      (.compound operator leftTree rightTree) := by
  cases operator with
  | or =>
      have orExpr := Derives.link .or leftDerives rightDerives
      cases level <;> simp_all [Level.Takes]
  | and =>
      have andExpr := Derives.link .and leftDerives rightDerives
      cases level with
      | orExpr => exact .operand .or andExpr
      | andExpr => exact andExpr
      | _ => simp [Level.Takes] at takes
  | exception =>
      have withExpr := Derives.exception leftDerives rightDerives
      cases level with
      | orExpr => exact .operand .or (.operand .and withExpr)
      | andExpr => exact .operand .and withExpr
      | withExpr => exact withExpr
      | primary => exact takes.elim

theorem derives_spelled (level : Level) (tree : Tree) :
    Derives level (spelled level tree) tree := by
  induction tree generalizing level with
  | identifier text => exact (Derives.identifier text).of_primary level
  | compound operator left right leftIH rightIH =>
      simp only [spelled]
      split
      case isTrue takes => exact .compound takes (leftIH _) (rightIH _)
      case isFalse =>
        have inside : Derives .orExpr _ (.compound operator left right) :=
          .compound trivial (leftIH _) (rightIH _)
        exact (Derives.group inside).of_primary level

theorem fits_spelled (roomy : ((depth + (tree.nesting + groupsAt level tree) : Nat) : Int) ≤
    max (depth : Int) limit) : Fits limit depth (spelled level tree) := by
  induction tree generalizing level depth with
  | identifier text => trivial
  | compound operator left right leftIH rightIH =>
      have leftDerives := derives_spelled (leftLevel operator) left
      rw [nesting_compound] at roomy
      simp only [spelled]
      split
      case isTrue takes =>
        exact leftDerives.fits_operator.mpr ⟨leftIH (by omega), rightIH (by omega)⟩
      case isFalse takes =>
        rw [groupsAt, if_neg takes] at roomy
        exact fits_group.mpr
          ⟨by omega, leftDerives.fits_operator.mpr ⟨leftIH (by omega), rightIH (by omega)⟩⟩

/-! ## Texts and their trees -/

theorem isSpellable_of_mem_spelled {anyCase : Bool} {token : Token}
    (identifiers : ∀ text ∈ tree.texts, Token.IsIdentifier anyCase text)
    (member : token ∈ spelled level tree) : token.IsSpellable anyCase := by
  induction tree generalizing level with
  | identifier text =>
      obtain rfl := List.mem_singleton.mp member
      exact identifiers text (List.mem_singleton_self text)
  | compound operator left right leftIH rightIH =>
      have bodySpellable (inBody : token ∈ spelled (leftLevel operator) left ++
          .operator operator :: spelled (rightLevel operator) right) :
          token.IsSpellable anyCase := by
        rcases List.mem_append.mp inBody with inLeft | inRest
        · exact leftIH (fun text own => identifiers text (List.mem_append_left _ own)) inLeft
        · rcases List.mem_cons.mp inRest with rfl | inRight
          · trivial
          · exact rightIH (fun text own => identifiers text (List.mem_append_right _ own)) inRight
      simp only [spelled] at member
      split at member
      · exact bodySpellable member
      · rcases List.mem_cons.mp member with rfl | inGroup
        · trivial
        · rcases List.mem_append.mp inGroup with inBody | closing
          · exact bodySpellable inBody
          · obtain rfl := List.mem_singleton.mp closing
            trivial

end Grammar

/-- A tree is the tree of some text exactly when its leaves are identifiers and the limit
allows the nesting that it needs. -/
theorem exists_parse_eq_valid_iff (options : Options) (tree : Tree) :
    (∃ text, parse options text = .ok (.valid tree)) ↔
      (∀ text ∈ tree.texts, Token.IsIdentifier options.anyCase text) ∧
        (tree.nesting : Int) ≤ max 0 (min options.maxDepth depthCap) := by
  simp only [parse_eq_valid_iff, parse?, Grammar.parse_eq_ok_iff]
  constructor
  · rintro ⟨raw, derives, fits⟩
    refine ⟨fun text member => ?_, ?_⟩
    · exact Token.isIdentifier_of_mem_scan (derives.identifier_mem member)
    · have := derives.nesting_le fits
      rwa [Grammar.groupsAt_orExpr, Nat.zero_add, Nat.add_zero] at this
  · rintro ⟨identifiers, allowed⟩
    have spellable : ∀ token ∈ Grammar.spelled .orExpr tree, token.IsSpellable options.anyCase :=
      fun token => Grammar.isSpellable_of_mem_spelled identifiers
    refine ⟨String.ofList (Token.spaced (Grammar.spelled .orExpr tree)), ?_⟩
    rw [Token.tokenize, String.toList_ofList, Token.scan_spaced spellable]
    refine ⟨Grammar.derives_spelled .orExpr tree, Grammar.fits_spelled ?_⟩
    rwa [Grammar.groupsAt_orExpr, Nat.zero_add, Nat.add_zero]

end LicenseExpr
