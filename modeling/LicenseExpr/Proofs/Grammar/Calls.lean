import Mathlib.Logic.Relation
import LicenseExpr.Proofs.Grammar.Balance
import LicenseExpr.Proofs.Grammar.Courses

/-!
# Calls within calls

A call leads to calls that are further on in the list of tokens, or at a
tighter level of the same place, so that calls are nested in each other
finitely deep.  In a run of the parser, the depth that a call is given is the
number of parentheses that are open where it begins.
-/

namespace LicenseExpr.Grammar

variable {limit : Int} {depth index next : Nat} {rest tokens : List Token}
  {tree : Tree} {level operand : Level} {operator : Operator}

/-! ## The calls that a call makes -/

/-- The second call is made in the course of the first one: a case for each place where a
production, or the rest of a chain, goes on with another one. -/
inductive Calls (limit : Int) (tokens : List Token) : Call → Call → Prop where
  /-- A chain begins with an operand, -/
  | operand {level operand : Level} {operator : Operator} {depth index : Nat}
      (chains : Chains level operand operator) :
      Calls limit tokens ⟨.production level, depth, index⟩ ⟨.production operand, depth, index⟩
  /-- and goes on behind it. -/
  | chain {level operand : Level} {operator : Operator} {depth index next : Nat} {left : Tree}
      {rest : List Token} (chains : Chains level operand operator)
      (reads : readAt limit tokens depth operand index = .ok (left, next, rest)) :
      Calls limit tokens ⟨.production level, depth, index⟩ ⟨.chain level left, depth, next⟩
  /-- Where the operator of the chain stands, one more operand is read behind it, -/
  | link {level operand : Level} {operator : Operator} {depth index : Nat} {left : Tree}
      (chains : Chains level operand operator)
      (goesOn : tokens[index]? = some (.operator operator)) :
      Calls limit tokens ⟨.chain level left, depth, index⟩ ⟨.production operand, depth, index + 1⟩
  /-- and the chain goes on behind that operand. -/
  | turn {level operand : Level} {operator : Operator} {depth index next : Nat}
      {left right : Tree} {rest : List Token} (chains : Chains level operand operator)
      (goesOn : tokens[index]? = some (.operator operator))
      (reads : readAt limit tokens depth operand (index + 1) = .ok (right, next, rest)) :
      Calls limit tokens ⟨.chain level left, depth, index⟩
        ⟨.chain level (.compound operator left right), depth, next⟩
  /-- A with-expression begins with a primary. -/
  | license {depth index : Nat} :
      Calls limit tokens ⟨.production .withExpr, depth, index⟩
        ⟨.production .primary, depth, index⟩
  /-- Where the exception operator stands behind it, one more primary is read. -/
  | exception {depth index next : Nat} {license : Tree} {rest : List Token}
      (reads : readAt limit tokens depth .primary index = .ok (license, next, rest))
      (goesOn : tokens[next]? = some (.operator .exception)) :
      Calls limit tokens ⟨.production .withExpr, depth, index⟩
        ⟨.production .primary, depth, next + 1⟩
  /-- A primary in parentheses is an or-expression, one parenthesis deeper. -/
  | group {depth index : Nat} (opens : tokens[index]? = some .openParen)
      (fits : (depth : Int) < limit) :
      Calls limit tokens ⟨.production .primary, depth, index⟩
        ⟨.production .orExpr, depth + 1, index + 1⟩

/-- These are all the calls that a call makes, -/
theorem Call.Makes.calls {caller callee : Call} (makes : caller.Makes limit tokens callee) :
    Calls limit tokens caller callee := by
  obtain ⟨⟨level⟩ | ⟨level, left⟩, depth, index⟩ := caller
  case production =>
    rcases level.chains_or with ⟨operand, operator, chains⟩ | rfl | rfl
    · rw [Call.Makes, chains.course_production, Course.makes_chain_iff] at makes
      rcases makes with rfl | ⟨left, next, rest, reads, rfl⟩
      · exact .operand chains
      · exact .chain chains reads
    · rcases Course.makes_withExpr_iff.mp makes with
        rfl | ⟨license, next, rest, reads, goesOn, rfl⟩
      · exact .license
      · exact .exception reads goesOn
    · obtain ⟨opens, fits, rfl⟩ := Course.makes_primary_iff.mp makes
      exact .group opens fits
  case chain =>
    rcases level.chains_or with ⟨operand, operator, chains⟩ | rfl | rfl
    · rw [Call.Makes, chains.course_chain, Course.makes_turn_iff] at makes
      obtain ⟨goesOn, rfl | ⟨right, next, rest, reads, rfl⟩⟩ := makes
      · exact .link chains goesOn
      · exact .turn chains goesOn reads
    · exact absurd makes Course.not_makes_ends
    · exact absurd makes Course.not_makes_ends

/-- and it makes them all. -/
theorem Calls.makes {caller callee : Call} (calls : Calls limit tokens caller callee) :
    caller.Makes limit tokens callee := by
  cases calls with
  | operand chains =>
      rw [Call.Makes, chains.course_production, Course.makes_chain_iff]
      exact .inl rfl
  | chain chains reads =>
      rw [Call.Makes, chains.course_production, Course.makes_chain_iff]
      exact .inr ⟨_, _, _, reads, rfl⟩
  | link chains goesOn =>
      rw [Call.Makes, chains.course_chain, Course.makes_turn_iff]
      exact ⟨goesOn, .inl rfl⟩
  | turn chains goesOn reads =>
      rw [Call.Makes, chains.course_chain, Course.makes_turn_iff]
      exact ⟨goesOn, .inr ⟨_, _, _, reads, rfl⟩⟩
  | license => exact Course.makes_withExpr_iff.mpr (.inl rfl)
  | exception reads goesOn =>
      exact Course.makes_withExpr_iff.mpr (.inr ⟨_, _, _, reads, goesOn, rfl⟩)
  | group opens fits => exact Course.makes_primary_iff.mpr ⟨opens, fits, rfl⟩

/-! ## Calls lead to less -/

/-- How many kinds of calls can follow each other at one index. -/
def Work.rank : Work → Nat
  | .production .orExpr => 4
  | .production .andExpr => 3
  | .production .withExpr => 2
  | .production .primary => 1
  | .chain _ _ => 0

theorem Work.rank_le (work : Work) : work.rank ≤ 4 := by
  rcases work with (_ | _ | _ | _) | _ <;> simp [rank]

/-- A bound for the calls, one within the other, that a call leads to. -/
def Call.measure (tokens : List Token) (call : Call) : Nat :=
  5 * (tokens.length + 1 - call.index) + call.work.rank

theorem Call.measure_lt_of_index_lt {caller callee : Call} (later : caller.index < callee.index)
    (bounded : callee.index ≤ tokens.length) : callee.measure tokens < caller.measure tokens := by
  have rankLe := callee.work.rank_le
  simp only [measure]
  omega

theorem Chains.rank_lt (chains : Chains level operand operator) :
    (Work.production operand).rank < (Work.production level).rank := by
  cases chains <;> simp [Work.rank]

theorem lt_length_of_getElem? {token : Token} (found : tokens[index]? = some token) :
    index < tokens.length :=
  (List.getElem?_eq_some_iff.mp found).1

/-- A call leads to less, since it is further on, or at a tighter level of the same place. -/
theorem Calls.measure_lt {caller callee : Call} (calls : Calls limit tokens caller callee) :
    callee.measure tokens < caller.measure tokens := by
  cases calls with
  | operand chains => exact Nat.add_lt_add_left chains.rank_lt _
  | chain chains reads =>
      obtain ⟨-, -, -, later, bounded, -⟩ := exists_consumed_of_readAt reads
      exact Call.measure_lt_of_index_lt later bounded
  | link chains goesOn =>
      exact Call.measure_lt_of_index_lt (Nat.lt_add_one _) (lt_length_of_getElem? goesOn)
  | turn chains goesOn reads =>
      obtain ⟨-, -, -, later, bounded, -⟩ := exists_consumed_of_readAt reads
      exact Call.measure_lt_of_index_lt (Nat.lt_of_succ_lt later) bounded
  | license => exact Nat.add_lt_add_left (Nat.lt_succ_self 1) _
  | exception reads goesOn =>
      obtain ⟨-, -, -, later, -, -⟩ := exists_consumed_of_readAt reads
      exact Call.measure_lt_of_index_lt (Nat.lt_succ_of_lt later) (lt_length_of_getElem? goesOn)
  | group opens fits =>
      exact Call.measure_lt_of_index_lt (Nat.lt_add_one _) (lt_length_of_getElem? opens)

theorem wellFounded_makes (limit : Int) (tokens : List Token) :
    WellFounded fun callee caller : Call => caller.Makes limit tokens callee :=
  Subrelation.wf (fun makes => makes.calls.measure_lt) (measure (Call.measure tokens)).wf

/-! ## The depth of calls -/

/-- How many more opening than closing parentheses there are. -/
def surplus (tokens : List Token) : Int :=
  tokens.count .openParen - tokens.count .closeParen

theorem surplus_append (first second : List Token) :
    surplus (first ++ second) = surplus first + surplus second := by
  simp only [surplus, List.count_append]
  omega

theorem Derives.surplus_eq_zero (derives : Derives level tokens tree) : surplus tokens = 0 := by
  rw [surplus, derives.balanced.count_eq, Int.sub_self]

theorem surplus_take_of_readAt
    (reads : readAt limit tokens depth level index = .ok (tree, next, rest)) :
    surplus (tokens.take next) = surplus (tokens.take index) := by
  obtain ⟨consumed, divided, rfl, -, -, -, derives, -⟩ := exists_consumed_of_readAt reads
  rw [List.take_add, divided, List.take_left, surplus_append, derives.surplus_eq_zero,
    Int.add_zero]

theorem surplus_take_succ {token : Token} (found : tokens[index]? = some token) :
    surplus (tokens.take (index + 1)) = surplus (tokens.take index) + surplus [token] := by
  rw [List.take_add_one, found, Option.toList_some, surplus_append]

theorem surplus_operator : surplus [.operator operator] = 0 := by
  simp [surplus]

/-- The depth of a call is the number of parentheses that are open where it begins, and these are
not more than the limit allows. -/
structure Call.IsCounted (limit : Int) (tokens : List Token) (call : Call) : Prop where
  index_le : call.index ≤ tokens.length
  depth_eq : (call.depth : Int) = surplus (tokens.take call.index)
  depth_le : (call.depth : Int) ≤ max 0 limit

theorem isCounted_firstCall : firstCall.IsCounted limit tokens :=
  ⟨Nat.zero_le _, rfl, Int.le_max_left ..⟩

/-- Only a group makes a call at another depth, behind its parenthesis. -/
theorem Calls.isCounted {caller callee : Call} (calls : Calls limit tokens caller callee)
    (counted : caller.IsCounted limit tokens) : callee.IsCounted limit tokens := by
  obtain ⟨indexLe, depthEq, depthLe⟩ := counted
  cases calls with
  | operand | license => exact ⟨indexLe, depthEq, depthLe⟩
  | chain chains reads =>
      obtain ⟨-, -, -, -, bounded, -⟩ := exists_consumed_of_readAt reads
      exact ⟨bounded, depthEq.trans (surplus_take_of_readAt reads).symm, depthLe⟩
  | link chains goesOn =>
      refine ⟨lt_length_of_getElem? goesOn, ?_, depthLe⟩
      rw [surplus_take_succ goesOn, surplus_operator, Int.add_zero]
      exact depthEq
  | turn chains goesOn reads =>
      obtain ⟨-, -, -, -, bounded, -⟩ := exists_consumed_of_readAt reads
      refine ⟨bounded, ?_, depthLe⟩
      rw [surplus_take_of_readAt reads, surplus_take_succ goesOn, surplus_operator, Int.add_zero]
      exact depthEq
  | exception reads goesOn =>
      refine ⟨lt_length_of_getElem? goesOn, ?_, depthLe⟩
      rw [surplus_take_succ goesOn, surplus_operator, Int.add_zero, surplus_take_of_readAt reads]
      exact depthEq
  | group opens fits =>
      refine ⟨lt_length_of_getElem? opens, ?_, ?_⟩
      · rw [surplus_take_succ opens, ← depthEq]
        rfl
      · simp only [Int.natCast_add, Int.natCast_one]
        omega

theorem isCounted_of_made {call : Call}
    (made : Relation.ReflTransGen (Call.Makes limit tokens) firstCall call) :
    call.IsCounted limit tokens := by
  induction made with
  | refl => exact isCounted_firstCall
  | tail made makes ih => exact makes.calls.isCounted ih

/-! ## Main results -/

/-- A production ends, wherever it begins in a list and whatever the limit and the depth are: it
reads some tokens up to one that does not go on with its level, and the same on all lists that look
like this one up to there, or it reports an error at one of the tokens from its index on, or at the
end; only a limit that cannot be written may take the place of the error.  Every call returns the outcome of its course, and the calls made in courses are nested
finitely deep.  In a run of the parser each of them is at the depth of the parentheses that are open
where it begins, within the limit. -/
theorem productions_return (tokens : List Token) :
    (∀ (limit : Int) (depth : Nat) (level : Level) (index : Nat), index ≤ tokens.length →
      (∃ tree next, ReadsTo limit tokens depth level index tree next) ∨
        (∃ error, readAt limit tokens depth level index = .error (.syntaxError error) ∧
          index ≤ error.index ∧ error.index ≤ tokens.length) ∨
        readAt limit tokens depth level index = .error .integerTooLong ∧
          Text.hasWritableLength limit = false) ∧
    (∀ limit : Int,
      (∀ call : Call, call.reading limit tokens =
        (call.course limit tokens).outcome (Call.reading limit tokens)) ∧
      WellFounded fun callee caller : Call => caller.Makes limit tokens callee) ∧
    ∀ maxDepth : Int,
      parse maxDepth tokens = finished (firstCall.reading (min maxDepth depthCap) tokens) ∧
      ∀ call, Relation.ReflTransGen (Call.Makes (min maxDepth depthCap) tokens) firstCall call →
        call.index ≤ tokens.length ∧
        (call.depth : Int) = (tokens.take call.index).count .openParen -
          (tokens.take call.index).count .closeParen ∧
        (call.depth : Int) ≤ max 0 (min maxDepth depthCap) := by
  refine ⟨fun limit depth level index indexLe => ?_,
    fun limit => ⟨reading_eq_outcome limit tokens, wellFounded_makes limit tokens⟩,
    fun maxDepth => ⟨parse_eq_finished maxDepth tokens, fun call made => ?_⟩⟩
  · cases result : readAt limit tokens depth level index with
    | ok taken =>
        obtain ⟨tree, next, rest⟩ := taken
        exact .inl ⟨tree, next, readsTo_of_readAt result⟩
    | error failure =>
        rcases (raisedWithin_of_read result).cases with ⟨error, rfl, within⟩ | ⟨rfl, unwritable⟩
        · have atMost := within.le_end
          rw [List.length_drop] at atMost
          exact .inr (.inl ⟨error, rfl, within.index_le, by omega⟩)
        · exact .inr (.inr ⟨rfl, unwritable⟩)
  · obtain ⟨indexLe, depthEq, depthLe⟩ := isCounted_of_made made
    exact ⟨indexLe, depthEq, depthLe⟩

/-- In the group of `(a OR b)` the same is read wherever the group ends in the same way, and the
call for `b` is at depth one. -/
theorem productions_return_in_group :
    readAt 5 [.operator .and, .identifier "a", .operator .or, .identifier "b", .closeParen,
        .openParen] 1 .orExpr 1 =
      .ok (.compound .or (.identifier "a") (.identifier "b"), 4, [.closeParen, .openParen]) ∧
    Relation.ReflTransGen (Call.Makes (min 5 depthCap) [.openParen, .identifier "a",
      .operator .or, .identifier "b", .closeParen]) firstCall ⟨.production .andExpr, 1, 3⟩ ∧
    (1 : Int) = ([.openParen, .identifier "a", .operator .or] : List Token).count .openParen -
      ([.openParen, .identifier "a", .operator .or] : List Token).count .closeParen := by
  have group : Derives .orExpr [.identifier "a", .operator .or, .identifier "b"]
      (.compound .or (.identifier "a") (.identifier "b")) :=
    .link .or ((Derives.identifier "a").of_primary .orExpr)
      ((Derives.identifier "b").of_primary .andExpr)
  obtain ⟨returns, -, calls⟩ := productions_return [.openParen, .identifier "a", .operator .or,
    .identifier "b", .closeParen]
  have reads : readAt 5 [.openParen, .identifier "a", .operator .or, .identifier "b",
      .closeParen] 1 .orExpr 1 = .ok (_, 4, [.closeParen]) :=
    group.read_eq trivial ends_closeParen
  have firstOperand : readAt (min 5 depthCap) [.openParen, .identifier "a", .operator .or,
      .identifier "b", .closeParen] 1 .andExpr 1 = .ok (_, 2, _) :=
    ((Derives.identifier "a").of_primary .andExpr).read_eq trivial (ends_operator.mpr (by
      simp [Level.Takes]))
  have called : Relation.ReflTransGen (Calls (min 5 depthCap) [.openParen, .identifier "a",
      .operator .or, .identifier "b", .closeParen]) firstCall ⟨.production .andExpr, 1, 3⟩ :=
    .head (.operand .or) <| .head (.operand .and) <| .head .license <|
      .head (.group rfl (by decide)) <| .head (.chain .or firstOperand) <|
      .head (.link .or rfl) .refl
  have made := Relation.ReflTransGen.mono (fun _ _ => Calls.makes) _ _ called
  refine ⟨?_, made, ((calls 5).2 _ made).2.1⟩
  rcases returns 5 1 .orExpr 1 (by decide) with
    ⟨tree, next, readsSame, -, -, -, sameOn⟩ | ⟨error, fails, -⟩ | ⟨fails, -⟩
  · obtain ⟨rfl, rfl, -⟩ : tree = _ ∧ next = 4 ∧ _ = _ := by
      simpa [reads, eq_comm] using readsSame
    refine sameOn _ (fun place after before => ?_) rfl
    obtain rfl | rfl | rfl : place = 1 ∨ place = 2 ∨ place = 3 := by omega
    all_goals rfl
  · cases reads.symm.trans fails
  · cases reads.symm.trans fails

end LicenseExpr.Grammar
