import LicenseExpr.Proofs.Grammar.Extent

/-!
# Courses of productions

A production at an index of a list of tokens calls other productions, and goes
on with what they return.  Its *course* writes this down: the next call, and
how to go on with any answer to it.  The rest of a chain is a call of its own,
one for each turn.

Every call returns the outcome of its course, where each call in the course is
answered by what it returns.  So the calls that its course makes are the calls
that are nested in it.
-/

namespace LicenseExpr.Grammar

variable {limit : Int} {depth index next : Nat} {rest tokens : List Token}
  {left license tree : Tree} {level operand : Level} {operator : Operator}

/-! ## Calls -/

/-- What a call is at: a production, or the rest of a chain after the operands read so far. -/
inductive Work where
  | production (level : Level)
  | chain (level : Level) (left : Tree)

/-- A call with the depth that it is given and the index where it begins. -/
structure Call where
  work : Work
  depth : Nat
  index : Nat

/-- The call that the parser makes. -/
def firstCall : Call :=
  ⟨.production .orExpr, 0, 0⟩

/-- What a call returns. -/
def Call.reading (limit : Int) (tokens : List Token) : Call → Reading
  | ⟨.production level, depth, index⟩ => readAt limit tokens depth level index
  | ⟨.chain level left, depth, index⟩ =>
      chained limit depth level left index (tokens.drop index)

theorem Call.reading_production :
    Call.reading limit tokens ⟨.production level, depth, index⟩ =
      readAt limit tokens depth level index := rfl

/-! ## Courses and their calls -/

/-- How a call goes: it ends with a reading, or it makes a call and goes on with what that
returns. -/
inductive Course where
  | ends (reading : Reading)
  | calls (callee : Call) (goesOn : Reading → Course)

namespace Course

variable {returned : Call → Reading} {callee call : Call}

/-- The reading that a course ends with, where calls return the given readings. -/
def outcome (returned : Call → Reading) : Course → Reading
  | .ends reading => reading
  | .calls callee goesOn => (goesOn (returned callee)).outcome returned

/-- A course makes a call, first or after others. -/
inductive Makes (returned : Call → Reading) : Course → Call → Prop where
  | first {callee : Call} {goesOn : Reading → Course} :
      Makes returned (.calls callee goesOn) callee
  | later {callee call : Call} {goesOn : Reading → Course}
      (makes : Makes returned (goesOn (returned callee)) call) :
      Makes returned (.calls callee goesOn) call

@[simp]
theorem not_makes_ends {reading : Reading} : ¬ (ends reading).Makes returned call := by
  rintro ⟨⟩

@[simp]
theorem makes_calls_iff {goesOn : Reading → Course} :
    (calls callee goesOn).Makes returned call ↔
      call = callee ∨ (goesOn (returned callee)).Makes returned call := by
  constructor
  · rintro (_ | makes)
    · exact .inl rfl
    · exact .inr makes
  · rintro (rfl | makes)
    · exact .first
    · exact .later makes

/-- A call whose failure is passed on. -/
def expects (callee : Call) (goesOn : Tree → Nat → Course) : Course :=
  .calls callee fun
    | .error failure => .ends (.error failure)
    | .ok (tree, next, _) => goesOn tree next

@[simp]
theorem makes_expects_iff {goesOn : Tree → Nat → Course} :
    (expects callee goesOn).Makes returned call ↔
      call = callee ∨ ∃ tree next rest, returned callee = .ok (tree, next, rest) ∧
        (goesOn tree next).Makes returned call := by
  rw [expects, makes_calls_iff]
  refine or_congr_right ?_
  rcases returned callee with failure | ⟨tree, next, rest⟩
  · simp
  · refine ⟨fun makes => ⟨tree, next, rest, rfl, makes⟩, ?_⟩
    rintro ⟨_, _, _, ⟨⟩, makes⟩
    exact makes

theorem outcome_expects {goesOn : Tree → Nat → Course} :
    (expects callee goesOn).outcome returned =
      match returned callee with
      | .error failure => .error failure
      | .ok (tree, next, _) => (goesOn tree next).outcome returned := by
  rw [expects, outcome]
  rcases returned callee with failure | ⟨tree, next, rest⟩ <;> rfl

/-! ## The courses of the productions -/

/-- The course of a primary. -/
def primary (limit : Int) (tokens : List Token) (depth index : Nat) : Course :=
  match tokens[index]? with
  | none => .ends (.error (.raised ⟨index, .endOfExpression⟩))
  | some (.identifier text) => .ends (.ok (.identifier text, index + 1, tokens.drop (index + 1)))
  | some (.operator operator) => .ends (.error (.raised ⟨index, .misplacedOperator operator⟩))
  | some .closeParen => .ends (.error (.raised ⟨index, .unmatchedParen⟩))
  | some .openParen =>
      if limit ≤ depth then .ends (.error (.raised ⟨index, .nestedTooDeep limit⟩))
      else .calls ⟨.production .orExpr, depth + 1, index + 1⟩ fun inner =>
        .ends (closed index inner)

/-- Only a group within the limit makes a call. -/
theorem makes_primary_iff : (primary limit tokens depth index).Makes returned call ↔
    tokens[index]? = some .openParen ∧ (depth : Int) < limit ∧
      call = ⟨.production .orExpr, depth + 1, index + 1⟩ := by
  rw [primary, ← Int.not_le]
  split
  case h_5 opens => split <;> simp_all
  all_goals simp_all

/-- The course of a with-expression behind its license. -/
def exception (tokens : List Token) (depth : Nat) (license : Tree) (index : Nat) : Course :=
  if tokens[index]? = some (.operator .exception) then
    .calls ⟨.production .primary, depth, index + 1⟩ fun last => .ends (excepted license last)
  else .ends (.ok (license, index, tokens.drop index))

theorem makes_exception_iff : (exception tokens depth license index).Makes returned call ↔
    tokens[index]? = some (.operator .exception) ∧
      call = ⟨.production .primary, depth, index + 1⟩ := by
  rw [exception]
  split <;> simp_all

/-- The course of a with-expression. -/
def withExpr (tokens : List Token) (depth index : Nat) : Course :=
  expects ⟨.production .primary, depth, index⟩ (exception tokens depth)

theorem makes_withExpr_iff : (withExpr tokens depth index).Makes returned call ↔
    call = ⟨.production .primary, depth, index⟩ ∨
      ∃ license next rest,
        returned ⟨.production .primary, depth, index⟩ = .ok (license, next, rest) ∧
        tokens[next]? = some (.operator .exception) ∧
        call = ⟨.production .primary, depth, next + 1⟩ := by
  simp only [withExpr, makes_expects_iff, makes_exception_iff]

/-- The course of an expression that is a chain of operands. -/
def chain (level operand : Level) (depth index : Nat) : Course :=
  expects ⟨.production operand, depth, index⟩ fun left next =>
    .calls ⟨.chain level left, depth, next⟩ .ends

theorem makes_chain_iff : (chain level operand depth index).Makes returned call ↔
    call = ⟨.production operand, depth, index⟩ ∨
      ∃ left next rest, returned ⟨.production operand, depth, index⟩ = .ok (left, next, rest) ∧
        call = ⟨.chain level left, depth, next⟩ := by
  simp [chain]

/-- The course of a chain behind its first operands. -/
def turn (tokens : List Token) (level operand : Level) (operator : Operator) (left : Tree)
    (depth index : Nat) : Course :=
  if tokens[index]? = some (.operator operator) then
    expects ⟨.production operand, depth, index + 1⟩ fun right next =>
      .calls ⟨.chain level (.compound operator left right), depth, next⟩ .ends
  else .ends (.ok (left, index, tokens.drop index))

theorem makes_turn_iff :
    (turn tokens level operand operator left depth index).Makes returned call ↔
      tokens[index]? = some (.operator operator) ∧
        (call = ⟨.production operand, depth, index + 1⟩ ∨
          ∃ right next rest,
            returned ⟨.production operand, depth, index + 1⟩ = .ok (right, next, rest) ∧
            call = ⟨.chain level (.compound operator left right), depth, next⟩) := by
  rw [turn]
  split <;> simp_all

end Course

/-- The course of a call at work on a list of tokens. -/
def Call.course (limit : Int) (tokens : List Token) : Call → Course
  | ⟨.production .orExpr, depth, index⟩ => .chain .orExpr .andExpr depth index
  | ⟨.production .andExpr, depth, index⟩ => .chain .andExpr .withExpr depth index
  | ⟨.production .withExpr, depth, index⟩ => .withExpr tokens depth index
  | ⟨.production .primary, depth, index⟩ => .primary limit tokens depth index
  | ⟨.chain .orExpr left, depth, index⟩ => .turn tokens .orExpr .andExpr .or left depth index
  | ⟨.chain .andExpr left, depth, index⟩ => .turn tokens .andExpr .withExpr .and left depth index
  | ⟨.chain .withExpr left, _, index⟩ | ⟨.chain .primary left, _, index⟩ =>
      .ends (.ok (left, index, tokens.drop index))

/-- The second call is made in the course of the first one. -/
def Call.Makes (limit : Int) (tokens : List Token) (caller callee : Call) : Prop :=
  (caller.course limit tokens).Makes (Call.reading limit tokens) callee

theorem Chains.course_production (chains : Chains level operand operator) :
    Call.course limit tokens ⟨.production level, depth, index⟩ =
      .chain level operand depth index := by
  cases chains <;> rfl

theorem Chains.course_chain (chains : Chains level operand operator) :
    Call.course limit tokens ⟨.chain level left, depth, index⟩ =
      .turn tokens level operand operator left depth index := by
  cases chains <;> rfl

/-- Every level is a chain, or one of the last two. -/
theorem Level.chains_or (level : Level) :
    (∃ operand operator, Chains level operand operator) ∨ level = .withExpr ∨ level = .primary := by
  cases level with
  | orExpr => exact .inl ⟨_, _, .or⟩
  | andExpr => exact .inl ⟨_, _, .and⟩
  | withExpr => exact .inr (.inl rfl)
  | primary => exact .inr (.inr rfl)

/-! ## What calls return is the outcome of their courses -/

theorem drop_of_getElem? {token : Token} (found : tokens[index]? = some token) :
    tokens.drop index = token :: tokens.drop (index + 1) := by
  obtain ⟨within, rfl⟩ := List.getElem?_eq_some_iff.mp found
  exact List.drop_eq_getElem_cons within

theorem drop_of_readAt (reads : readAt limit tokens depth level index = .ok (tree, next, rest)) :
    rest = tokens.drop next := by
  obtain ⟨-, -, -, -, -, restEq, -⟩ := exists_consumed_of_readAt reads
  exact restEq

theorem outcome_primary :
    (Course.primary limit tokens depth index).outcome (Call.reading limit tokens) =
      readAt limit tokens depth .primary index := by
  rw [Course.primary, readAt]
  cases found : tokens[index]? with
  | none =>
      rw [List.drop_eq_nil_of_le (List.getElem?_eq_none_iff.mp found)]
      exact read_primary_nil.symm
  | some token =>
      rw [drop_of_getElem? found]
      cases token with
      | identifier text => exact (read_primary_identifier text).symm
      | operator operator => exact read_primary_operator.symm
      | closeParen => exact read_primary_closeParen.symm
      | openParen =>
          by_cases tooDeep : limit ≤ depth
          · simp only [if_pos tooDeep, Course.outcome]
            exact (read_primary_tooDeep tooDeep).symm
          · simp only [if_neg tooDeep, Course.outcome]
            exact (read_primary_openParen (Int.not_le.mp tooDeep)).symm

theorem outcome_exception :
    (Course.exception tokens depth left index).outcome (Call.reading limit tokens) =
      licensed limit depth (.ok (left, index, tokens.drop index)) := by
  rw [Course.exception]
  by_cases goesOn : tokens[index]? = some (.operator .exception)
  · rw [if_pos goesOn, drop_of_getElem? goesOn]
    rfl
  · rw [if_neg goesOn, licensed_of_ends (ends_drop_iff.mpr ?_)]
    · rfl
    · rintro operator rfl
      exact goesOn

theorem outcome_withExpr :
    (Course.withExpr tokens depth index).outcome (Call.reading limit tokens) =
      readAt limit tokens depth .withExpr index := by
  have readAtEq : readAt limit tokens depth .withExpr index =
      licensed limit depth (readAt limit tokens depth .primary index) := read_withExpr
  rw [readAtEq, Course.withExpr, Course.outcome_expects, Call.reading_production]
  cases first : readAt limit tokens depth .primary index with
  | error failure => rfl
  | ok license =>
      obtain ⟨license, next, rest⟩ := license
      rw [drop_of_readAt first]
      exact outcome_exception

theorem outcome_chain (chains : Chains level operand operator) :
    (Course.chain level operand depth index).outcome (Call.reading limit tokens) =
      readAt limit tokens depth level index := by
  have readAtEq : readAt limit tokens depth level index =
      begun limit depth level (readAt limit tokens depth operand index) := read_chain chains
  rw [readAtEq, Course.chain, Course.outcome_expects, Call.reading_production]
  cases first : readAt limit tokens depth operand index with
  | error failure => rfl
  | ok left =>
      obtain ⟨left, next, rest⟩ := left
      rw [drop_of_readAt first]
      rfl

/-- A chain goes on only at its own operator. -/
theorem chained_of_head?_ne (chains : Chains level operand operator) {input : List Token}
    (other : input.head? ≠ some (.operator operator)) :
    chained limit depth level left index input = .ok (left, index, input) := by
  rcases input with _ | ⟨_ | ⟨_ | _ | _⟩ | _ | _, after⟩ <;> cases chains <;>
    simp_all [chained, orChain, andChain, erased, Except.map]

theorem outcome_turn (chains : Chains level operand operator) :
    (Course.turn tokens level operand operator left depth index).outcome
        (Call.reading limit tokens) =
      chained limit depth level left index (tokens.drop index) := by
  rw [Course.turn]
  by_cases goesOn : tokens[index]? = some (.operator operator)
  · rw [if_pos goesOn, Course.outcome_expects, Call.reading_production, drop_of_getElem? goesOn,
      chained_link chains, ← readAt]
    cases last : readAt limit tokens depth operand (index + 1) with
    | error failure => rfl
    | ok right =>
        obtain ⟨right, next, rest⟩ := right
        rw [drop_of_readAt last]
        rfl
  · rw [if_neg goesOn, chained_of_head?_ne chains (by rwa [List.head?_drop]), Course.outcome]

/-- The courses are those of the productions: they end with what these return. -/
theorem reading_eq_outcome (limit : Int) (tokens : List Token) (call : Call) :
    call.reading limit tokens =
      (call.course limit tokens).outcome (Call.reading limit tokens) := by
  obtain ⟨⟨level⟩ | ⟨level, left⟩, depth, index⟩ := call
  case production =>
    rcases level.chains_or with ⟨operand, operator, chains⟩ | rfl | rfl
    · rw [chains.course_production, outcome_chain chains, Call.reading_production]
    · exact outcome_withExpr.symm
    · exact outcome_primary.symm
  case chain =>
    rcases level.chains_or with ⟨operand, operator, chains⟩ | rfl | rfl
    · rw [chains.course_chain, outcome_turn chains, Call.reading]
    · rfl
    · rfl

end LicenseExpr.Grammar
