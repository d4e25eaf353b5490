import LicenseExpr.Proofs.Grammar.Acceptance

/-!
# How far productions read

A production that begins at an index of a list of tokens and does not fail reads
up to a later index.  What it reads is decided by the tokens up to there and by
the kind of the next one, which does not go on with its level.
-/

namespace LicenseExpr

namespace Token

/-- What the grammar sees of a token: all but the text of an identifier. -/
inductive Kind where
  | identifier
  | operator (connective : Operator)
  | openParen
  | closeParen
deriving DecidableEq

def kind : Token → Kind
  | .identifier _ => .identifier
  | .operator connective => .operator connective
  | .openParen => .openParen
  | .closeParen => .closeParen

theorem kind_eq_operator_iff {token : Token} {connective : Operator} :
    token.kind = .operator connective ↔ token = .operator connective := by
  cases token <;> simp [kind]

end Token

namespace Grammar

variable {limit : Int} {depth index next : Nat} {rest tokens other : List Token} {tree : Tree}
  {level : Level}

/-! ## Productions at an index -/

/-- What a production makes of a list of tokens where it begins at an index. -/
def readAt (limit : Int) (tokens : List Token) (depth : Nat) (level : Level) (index : Nat) :
    Reading :=
  read limit depth level index (tokens.drop index)

theorem ends_drop_iff : level.Ends (tokens.drop next) ↔
    ∀ operator, level.Takes operator → tokens[next]? ≠ some (.operator operator) := by
  rw [← List.head?_drop]
  cases tokens.drop next with
  | nil => simp [ends_nil]
  | cons found after =>
      rw [ends_cons]
      simp only [List.head?_cons, ne_eq, Option.some.injEq]
      exact ⟨fun ends operator taken same => ends operator same taken,
        fun ends operator same taken => ends operator taken same⟩

/-- The tokens that a reading takes stand between its indices. -/
theorem exists_consumed_of_readAt
    (reads : readAt limit tokens depth level index = .ok (tree, next, rest)) :
    ∃ consumed, tokens.drop index = consumed ++ tokens.drop next ∧
      next = index + consumed.length ∧ index < next ∧ next ≤ tokens.length ∧
      rest = tokens.drop next ∧ Derives level consumed tree ∧ Fits limit depth consumed ∧
      level.Ends (tokens.drop next) := by
  obtain ⟨consumed, divided, rfl, derives, fits, ends⟩ := taken_of_read reads
  have restEq : rest = tokens.drop (index + consumed.length) := by
    rw [← List.drop_drop, divided, List.drop_left]
  subst restEq
  have positive : 0 < consumed.length := by
    obtain ⟨last, isLast, -⟩ := derives.exists_getLast?
    exact List.length_pos_of_mem (List.mem_of_getLast? isLast)
  have lengthEq := congrArg List.length divided
  rw [List.length_append, List.length_drop, List.length_drop] at lengthEq
  exact ⟨consumed, divided, rfl, by omega, by omega, rfl, derives, fits, ends⟩

theorem take_drop_of_agree {count : Nat} (agree : ∀ place, index ≤ place →
      place < index + count → other[place]? = tokens[place]?) :
    (other.drop index).take count = (tokens.drop index).take count := by
  refine List.ext_getElem? fun offset => ?_
  by_cases before : offset < count
  · rw [List.getElem?_take_of_lt before, List.getElem?_take_of_lt before, List.getElem?_drop,
      List.getElem?_drop]
    exact agree _ (by omega) (by omega)
  · rw [List.getElem?_take, List.getElem?_take, if_neg before, if_neg before]

/-- A reading that succeeds: what it read of the list, and that it reads the same on every list
that has the same tokens there and a token of the same kind, or no token, behind them. -/
structure ReadsTo (limit : Int) (tokens : List Token) (depth : Nat) (level : Level) (index : Nat)
    (tree : Tree) (next : Nat) : Prop where
  reads : readAt limit tokens depth level index = .ok (tree, next, tokens.drop next)
  index_lt : index < next
  next_le : next ≤ tokens.length
  ends : ∀ operator, level.Takes operator → tokens[next]? ≠ some (.operator operator)
  same_on : ∀ other : List Token,
    (∀ place, index ≤ place → place < next → other[place]? = tokens[place]?) →
    other[next]?.map Token.kind = tokens[next]?.map Token.kind →
    readAt limit other depth level index = .ok (tree, next, other.drop next)

theorem ends_drop_of_kind (sameKind : other[next]?.map Token.kind = tokens[next]?.map Token.kind)
    (ends : level.Ends (tokens.drop next)) : level.Ends (other.drop next) := by
  rw [ends_drop_iff] at ends ⊢
  intro operator taken found
  rw [found, Option.map_some, eq_comm, Option.map_eq_some_iff] at sameKind
  obtain ⟨token, isToken, kindEq⟩ := sameKind
  rw [Token.kind, Token.kind_eq_operator_iff] at kindEq
  exact ends operator taken (by rw [isToken, kindEq])

theorem readsTo_of_readAt
    (reads : readAt limit tokens depth level index = .ok (tree, next, rest)) :
    ReadsTo limit tokens depth level index tree next := by
  obtain ⟨consumed, divided, rfl, indexLt, nextLe, rfl, derives, fits, ends⟩ :=
    exists_consumed_of_readAt reads
  refine ⟨reads, indexLt, nextLe, ends_drop_iff.mp ends, fun other agree sameKind => ?_⟩
  have otherDivided : other.drop index = consumed ++ other.drop (index + consumed.length) := by
    have front := take_drop_of_agree agree
    rw [divided, List.take_left] at front
    rw [← List.drop_drop]
    conv => lhs; rw [← List.take_append_drop consumed.length (other.drop index), front]
  rw [readAt, otherDivided]
  exact derives.read_eq fits (ends_drop_of_kind sameKind ends)

end Grammar

end LicenseExpr
