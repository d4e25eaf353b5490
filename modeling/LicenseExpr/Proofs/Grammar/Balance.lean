import Mathlib.Tactic.ByContra
import LicenseExpr.Proofs.Grammar.Derivation

/-!
# Balanced parentheses

Derived lists are balanced.  A block that is an identifier or a balanced list
in parentheses has something open from its first token to its last, so it
cannot lie across the end of a balanced list: where two lists are put together
with an operator between them, or a list is put in parentheses, a block stands
in one of the parts or is the whole.
-/

namespace LicenseExpr.Grammar

variable {tokens first second before after : List Token}

/-- No beginning of the tokens has more closing than opening parentheses, and all of them
together have as many. -/
structure Balanced (tokens : List Token) : Prop where
  closes_le : ∀ length,
    (tokens.take length).count .closeParen ≤ (tokens.take length).count .openParen
  count_eq : tokens.count .closeParen = tokens.count .openParen

/-- The tokens in parentheses. -/
def grouped (tokens : List Token) : List Token :=
  .openParen :: (tokens ++ [.closeParen])

namespace Balanced

theorem closes_le_of_prefix (balanced : Balanced tokens) (beginning : before <+: tokens) :
    before.count .closeParen ≤ before.count .openParen := by
  rw [List.prefix_iff_eq_take.mp beginning]
  exact balanced.closes_le before.length

theorem append (firstBalanced : Balanced first) (secondBalanced : Balanced second) :
    Balanced (first ++ second) := by
  constructor
  case closes_le =>
    intro length
    have inFirst := firstBalanced.closes_le length
    have inSecond := secondBalanced.closes_le (length - first.length)
    simp only [List.take_append, List.count_append]
    omega
  case count_eq =>
    rw [List.count_append, List.count_append, firstBalanced.count_eq, secondBalanced.count_eq]

theorem singleton {token : Token} (notOpen : token ≠ .openParen)
    (notClose : token ≠ .closeParen) : Balanced [token] := by
  have noOpen : [token].count .openParen = 0 := by simp [notOpen]
  have noClose : [token].count .closeParen = 0 := by simp [notClose]
  constructor
  case closes_le =>
    intro length
    have fewer := (List.take_sublist length [token]).count_le .closeParen
    omega
  case count_eq => rw [noOpen, noClose]

theorem group (balanced : Balanced tokens) : Balanced (grouped tokens) := by
  constructor
  case closes_le =>
    rintro (_ | length)
    · simp
    · have inside := balanced.closes_le length
      have atMostOne := (List.take_sublist (length - tokens.length) [.closeParen]).count_le
        Token.closeParen
      simp only [grouped, List.take_succ_cons, List.take_append, List.count_cons_self,
        List.count_cons_of_ne (by decide : Token.openParen ≠ .closeParen), List.count_append,
        List.count_nil] at *
      omega
  case count_eq => simp [grouped, balanced.count_eq]

end Balanced

theorem Derives.balanced {level : Level} {tree : Tree} (derives : Derives level tokens tree) :
    Balanced tokens := by
  induction derives with
  | operand chains only ih => exact ih
  | license only ih => exact ih
  | link _ _ _ firstIH lastIH | exception _ _ firstIH lastIH =>
      exact firstIH.append ((Balanced.singleton (by simp) (by simp)).append lastIH)
  | identifier text => exact .singleton (by simp) (by simp)
  | group inner ih => exact ih.group

/-- A token that can be the first one of an operand. -/
def BeginsOperand : Token → Prop
  | .identifier _ | .openParen => True
  | .operator _ | .closeParen => False

/-- A block that is an operand by its outside: an identifier, or matching parentheses with
anything balanced between them. -/
inductive Enclosed : List Token → Prop where
  | identifier (text : String) : Enclosed [.identifier text]
  | group {tokens : List Token} (balanced : Balanced tokens) : Enclosed (grouped tokens)

namespace Enclosed

variable {block rest more left right : List Token} {token : Token}

theorem balanced (enclosed : Enclosed block) : Balanced block := by
  cases enclosed with
  | identifier text => exact .singleton (by simp) (by simp)
  | group balanced => exact balanced.group

theorem exists_cons (enclosed : Enclosed block) :
    ∃ first others, block = first :: others ∧ BeginsOperand first := by
  cases enclosed <;> exact ⟨_, _, rfl, trivial⟩

theorem append_ne_cons (enclosed : Enclosed block) (separates : ¬ BeginsOperand token) :
    block ++ after ≠ token :: right := by
  obtain ⟨first, others, rfl, begins⟩ := enclosed.exists_cons
  intro same
  cases same
  exact separates begins

/-- The first parenthesis stays open up to the last token. -/
theorem closes_lt_of_append (enclosed : Enclosed (before ++ after)) (nonempty : before ≠ [])
    (notAll : after ≠ []) : before.count .closeParen < before.count .openParen := by
  generalize blockEq : before ++ after = block at enclosed
  cases enclosed with
  | identifier text =>
      rcases List.append_eq_singleton_iff.mp blockEq with ⟨none, -⟩ | ⟨-, none⟩
      · exact absurd none nonempty
      · exact absurd none notAll
  | @group tokens balanced =>
      obtain ⟨token, before, rfl⟩ := List.exists_cons_of_ne_nil nonempty
      rw [grouped, List.cons_append, List.cons.injEq] at blockEq
      obtain ⟨rfl, insideEq⟩ := blockEq
      have beginning : before <+: tokens := by
        rcases List.prefix_concat_iff.mp ⟨after, insideEq⟩ with rfl | beginning
        · exact absurd (List.append_right_eq_self.mp insideEq) notAll
        · exact beginning
      have notLed := balanced.closes_le_of_prefix beginning
      rw [List.count_cons_self, List.count_cons_of_ne (by decide)]
      omega

/-- A block that begins within balanced tokens ends within them. -/
theorem ends_within (enclosed : Enclosed block) (outer : Balanced (before ++ rest))
    (nonempty : rest ≠ []) (place : rest ++ more = block ++ after) :
    ∃ last, rest = block ++ last ∧ after = last ++ more := by
  rcases List.append_eq_append_iff.mp place with ⟨last, rfl, rfl⟩ | ⟨last, restEq, afterEq⟩
  · have atEnd : last = [] := by
      by_contra notAtEnd
      -- Where the balanced tokens end, the block has a parenthesis open.
      have opened := enclosed.closes_lt_of_append nonempty notAtEnd
      have notLed := outer.closes_le_of_prefix (List.prefix_append before rest)
      have asMany := outer.count_eq
      simp only [List.count_append] at asMany
      omega
    exact ⟨[], by simp [atEnd], by simp [atEnd]⟩
  · exact ⟨last, restEq, afterEq⟩

/-- Where a token that begins no operand stands behind balanced tokens, a block is on one side
of it. -/
theorem left_or_right (enclosed : Enclosed block) (leftBalanced : Balanced left)
    (separates : ¬ BeginsOperand token)
    (place : left ++ token :: right = before ++ (block ++ after)) :
    (∃ last, left = before ++ (block ++ last) ∧ after = last ++ token :: right) ∨
      ∃ first, right = first ++ (block ++ after) ∧ before = left ++ token :: first := by
  rcases List.append_eq_append_iff.mp place with ⟨first, rfl, same⟩ | ⟨rest, rfl, same⟩
  · rcases first with _ | ⟨other, first⟩
    · exact absurd same.symm (enclosed.append_ne_cons separates)
    · cases same
      exact .inr ⟨first, rfl, rfl⟩
  · rcases rest with _ | ⟨other, rest⟩
    · exact absurd same (enclosed.append_ne_cons separates)
    · obtain ⟨last, restEq, rfl⟩ := enclosed.ends_within leftBalanced (by simp) same.symm
      exact .inl ⟨last, by rw [restEq], rfl⟩

/-- Balanced tokens in parentheses are a block, or hold it inside. -/
theorem whole_or_inside (enclosed : Enclosed block) (balanced : Balanced tokens)
    (place : grouped tokens = before ++ (block ++ after)) :
    (before = [] ∧ after = []) ∨ ∃ first last, tokens = first ++ (block ++ last) ∧
      before = .openParen :: first ∧ after = last ++ [.closeParen] := by
  rcases before with _ | ⟨token, first⟩
  · have toEnd : after = [] := by
      by_contra notAll
      have whole : Enclosed (block ++ after) := by
        rw [← List.nil_append (block ++ after), ← place]
        exact .group balanced
      obtain ⟨_, _, blockEq, -⟩ := enclosed.exists_cons
      have opened := whole.closes_lt_of_append (by simp [blockEq]) notAll
      have asMany := enclosed.balanced.count_eq
      omega
    exact .inl ⟨rfl, toEnd⟩
  · rw [grouped, List.cons_append, List.cons.injEq] at place
    obtain ⟨rfl, place⟩ := place
    rcases enclosed.left_or_right balanced id place with
      ⟨last, tokensEq, rfl⟩ | ⟨first, impossible, -⟩
    · exact .inr ⟨first, last, tokensEq, rfl, rfl⟩
    · obtain ⟨_, _, rfl, -⟩ := enclosed.exists_cons
      simp at impossible

end Enclosed

end LicenseExpr.Grammar
