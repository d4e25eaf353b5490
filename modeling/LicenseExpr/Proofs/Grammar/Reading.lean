import LicenseExpr.Parsing
import LicenseExpr.Proofs.Grammar.Derivation

/-!
# Productions as readings

The productions keep, beside what they return, a proof that they read
something.  Here that proof is erased and every production becomes a *reading*
of its input: a tree with the index and the tokens after it, or a failure.  The
or-expressions and the and-expressions are chains of operands and obey the same
equations, so each level of the grammar is read by one function `read`, and the
rest of a chain by one function `chained`.

A production goes on from the reading of its first part: `closed` does so for
groups, `licensed` and `excepted` for with-expressions, `begun` and `linked`
for chains.

The equations below say everything that a reading does; `level_induction` is
the induction that all statements about readings use.
-/

namespace LicenseExpr.Grammar

/-- What a production makes of its input: a tree, the index of the token after
it and the tokens that are left, or a failure. -/
abbrev Reading := Except ParseFailure (Tree × Nat × List Token)

def erased {bound : Nat} (result : Except ParseFailure (Parsed bound)) : Reading :=
  result.map fun parsed => (parsed.tree, parsed.index, parsed.rest)

variable {limit : Int} {depth index next : Nat} {input rest : List Token} {left tree : Tree}
  {level operand : Level} {operator : Operator} {error : SyntaxError}

def read (limit : Int) (depth : Nat) (level : Level) (index : Nat) (input : List Token) :
    Reading :=
  match level with
  | .orExpr => erased (orExpr limit depth index input)
  | .andExpr => erased (andExpr limit depth index input)
  | .withExpr => erased (withExpr limit depth index input)
  | .primary => erased (primary limit depth index input)

/-- What is read of a chain after its first operands `left`. -/
def chained (limit : Int) (depth : Nat) (level : Level) (left : Tree) (index : Nat)
    (input : List Token) : Reading :=
  match level with
  | .orExpr => erased (orChain limit depth left index input (input.length + 1) (Nat.lt_add_one _))
  | .andExpr => erased (andChain limit depth left index input (input.length + 1) (Nat.lt_add_one _))
  | .withExpr | .primary => .ok (left, index, input)

/-! ## The equations of the readings -/

theorem read_primary_nil :
    read limit depth .primary index [] = .error (.raised ⟨index, .endOfExpression⟩) := by
  simp [read, primary, erased, Except.map]

theorem read_primary_identifier (text : String) :
    read limit depth .primary index (.identifier text :: rest) =
      .ok (.identifier text, index + 1, rest) := by
  simp [read, primary, erased, Except.map]

theorem read_primary_closeParen :
    read limit depth .primary index (.closeParen :: rest) =
      .error (.raised ⟨index, .unmatchedParen⟩) := by
  simp [read, primary, erased, Except.map]

theorem read_primary_operator :
    read limit depth .primary index (.operator operator :: rest) =
      .error (.raised ⟨index, .misplacedOperator operator⟩) := by
  simp [read, primary, erased, Except.map]

theorem read_primary_tooDeep (tooDeep : limit ≤ depth) :
    read limit depth .primary index (.openParen :: rest) =
      .error (.raised ⟨index, .nestedTooDeep limit⟩) := by
  simp [read, primary, erased, Except.map, tooDeep]

def closed (index : Nat) : Reading → Reading
  | .error failure => .error failure
  | .ok (tree, next, .closeParen :: rest) => .ok (tree, next + 1, rest)
  | .ok (_, _, []) => .error (.raised ⟨index, .unclosedParen⟩)
  | .ok (_, next, found :: _) => .error (.raised ⟨next, .notClosing found⟩)

theorem read_primary_openParen (fits : (depth : Int) < limit) :
    read limit depth .primary index (.openParen :: rest) =
      closed index (read limit (depth + 1) .orExpr (index + 1) rest) := by
  simp only [read, primary, if_neg (Int.not_le.mpr fits)]
  cases orExpr limit (depth + 1) (index + 1) rest with
  | error failure => rfl
  | ok parsed =>
      obtain ⟨tree, next, remaining, shorter⟩ := parsed
      cases remaining with
      | nil => rfl
      | cons found after => cases found <;> rfl

def excepted (license : Tree) : Reading → Reading
  | .error failure => .error failure
  | .ok (_, next, .operator .exception :: _) => .error (.raised ⟨next, .chainedException⟩)
  | .ok (exception, next, rest) => .ok (.compound .exception license exception, next, rest)

def licensed (limit : Int) (depth : Nat) : Reading → Reading
  | .error failure => .error failure
  | .ok (license, next, .operator .exception :: rest) =>
      excepted license (read limit depth .primary (next + 1) rest)
  | .ok (license, next, rest) => .ok (license, next, rest)

theorem read_withExpr :
    read limit depth .withExpr index input =
      licensed limit depth (read limit depth .primary index input) := by
  simp only [read, withExpr]
  cases primary limit depth index input with
  | error failure => rfl
  | ok parsed =>
      obtain ⟨license, next, remaining, shorter⟩ := parsed
      rcases remaining with _ | ⟨_ | ⟨_ | _ | _⟩ | _ | _, after⟩
      case cons.operator.exception =>
        simp only [erased, Except.map, licensed, read]
        cases primary limit depth (next + 1) after with
        | error failure => rfl
        | ok parsed =>
            obtain ⟨exception, next, remaining, shorter⟩ := parsed
            rcases remaining with _ | ⟨_ | ⟨_ | _ | _⟩ | _ | _, after⟩ <;> rfl
      all_goals rfl

private theorem erased_orChain {bound other : Nat} (shorter : input.length < bound)
    (shorter' : input.length < other) :
    erased (orChain limit depth left index input bound shorter) =
      erased (orChain limit depth left index input other shorter') := by
  induction lengthEq : input.length using Nat.strongRecOn generalizing left index input with
  | ind length ih =>
    rcases input with _ | ⟨_ | ⟨_ | _ | _⟩ | _ | _, after⟩
    case cons.operator.or =>
      simp only [orChain]
      cases andExpr limit depth (index + 1) after with
      | error failure => rfl
      | ok parsed =>
          have := parsed.length_rest
          simp only [List.length_cons] at lengthEq
          exact ih parsed.rest.length (by omega) _ _ rfl
    all_goals simp [orChain, erased, Except.map]

private theorem erased_andChain {bound other : Nat} (shorter : input.length < bound)
    (shorter' : input.length < other) :
    erased (andChain limit depth left index input bound shorter) =
      erased (andChain limit depth left index input other shorter') := by
  induction lengthEq : input.length using Nat.strongRecOn generalizing left index input with
  | ind length ih =>
    rcases input with _ | ⟨_ | ⟨_ | _ | _⟩ | _ | _, after⟩
    case cons.operator.and =>
      simp only [andChain]
      cases withExpr limit depth (index + 1) after with
      | error failure => rfl
      | ok parsed =>
          have := parsed.length_rest
          simp only [List.length_cons] at lengthEq
          exact ih parsed.rest.length (by omega) _ _ rfl
    all_goals simp [andChain, erased, Except.map]

def begun (limit : Int) (depth : Nat) (level : Level) : Reading → Reading
  | .error failure => .error failure
  | .ok (left, next, rest) => chained limit depth level left next rest

def linked (limit : Int) (depth : Nat) (level : Level) (operator : Operator) (left : Tree) :
    Reading → Reading
  | .error failure => .error failure
  | .ok (right, next, rest) =>
      chained limit depth level (.compound operator left right) next rest

theorem read_chain (chains : Chains level operand operator) :
    read limit depth level index input =
      begun limit depth level (read limit depth operand index input) := by
  cases chains with
  | or =>
      simp only [read, orExpr]
      cases andExpr limit depth index input with
      | error failure => rfl
      | ok parsed => exact erased_orChain parsed.length_rest (Nat.lt_succ_self _)
  | and =>
      simp only [read, andExpr]
      cases withExpr limit depth index input with
      | error failure => rfl
      | ok parsed => exact erased_andChain parsed.length_rest (Nat.lt_succ_self _)

theorem chained_link (chains : Chains level operand operator) :
    chained limit depth level left index (.operator operator :: rest) =
      linked limit depth level operator left (read limit depth operand (index + 1) rest) := by
  cases chains with
  | or =>
      simp only [chained, read, orChain]
      cases andExpr limit depth (index + 1) rest with
      | error failure => rfl
      | ok parsed => exact erased_orChain _ (Nat.lt_succ_self _)
  | and =>
      simp only [chained, read, andChain]
      cases withExpr limit depth (index + 1) rest with
      | error failure => rfl
      | ok parsed => exact erased_andChain _ (Nat.lt_succ_self _)

theorem chained_of_ends (ends : level.Ends input) :
    chained limit depth level left index input = .ok (left, index, input) := by
  rcases input with _ | ⟨_ | ⟨_ | _ | _⟩ | _ | _, after⟩ <;> cases level <;>
    simp_all [chained, orChain, andChain, erased, Except.map, Level.Ends, Level.Takes]

theorem licensed_of_ends (ends : Level.withExpr.Ends rest) :
    licensed limit depth (.ok (tree, index, rest)) = .ok (tree, index, rest) := by
  rcases rest with _ | ⟨_ | ⟨_ | _ | _⟩ | _ | _, after⟩ <;>
    simp_all [licensed, Level.Ends, Level.Takes]

theorem excepted_of_ends (ends : Level.withExpr.Ends rest) :
    excepted left (.ok (tree, index, rest)) =
      .ok (.compound .exception left tree, index, rest) := by
  rcases rest with _ | ⟨_ | ⟨_ | _ | _⟩ | _ | _, after⟩ <;>
    simp_all [excepted, Level.Ends, Level.Takes]

/-! ## What a reading can do -/

/-- Why no operand begins at some tokens. -/
inductive NoOperand (limit : Int) (depth : Nat) : List Token → Fault → Prop where
  | nil : NoOperand limit depth [] .endOfExpression
  | closeParen (after : List Token) :
      NoOperand limit depth (.closeParen :: after) .unmatchedParen
  | operator (operator : Operator) (after : List Token) :
      NoOperand limit depth (.operator operator :: after) (.misplacedOperator operator)
  | openParen (tooDeep : limit ≤ depth) (after : List Token) :
      NoOperand limit depth (.openParen :: after) (.nestedTooDeep limit)

/-- Why a group at `index` does not end before some tokens at `next`. -/
inductive NotClosed (index next : Nat) : List Token → SyntaxError → Prop where
  | nil : NotClosed index next [] ⟨index, .unclosedParen⟩
  | cons (found : Token) (after : List Token) (other : found ≠ .closeParen) :
      NotClosed index next (found :: after) ⟨next, .notClosing found⟩

theorem closed_of_notClosed (notClosed : NotClosed index next rest error) :
    closed index (.ok (tree, next, rest)) = .error (.raised error) := by
  cases notClosed with
  | nil => rfl
  | cons found after other => cases found <;> simp_all [closed]

theorem closed_cases (index : Nat) (result : Reading) :
    (∃ failure, result = .error failure ∧ closed index result = .error failure) ∨
      (∃ tree next rest, result = .ok (tree, next, .closeParen :: rest) ∧
        closed index result = .ok (tree, next + 1, rest)) ∨
      ∃ tree next rest error, result = .ok (tree, next, rest) ∧
        NotClosed index next rest error ∧ closed index result = .error (.raised error) := by
  rcases result with failure | ⟨tree, next, rest⟩
  · exact .inl ⟨failure, rfl, rfl⟩
  · by_cases closes : ∃ after, rest = .closeParen :: after
    · obtain ⟨after, rfl⟩ := closes
      exact .inr (.inl ⟨tree, next, after, rfl, rfl⟩)
    · obtain ⟨error, notClosed⟩ : ∃ error, NotClosed index next rest error := by
        cases rest with
        | nil => exact ⟨_, .nil⟩
        | cons found after =>
            exact ⟨_, .cons found after fun same => closes ⟨after, by rw [same]⟩⟩
      exact .inr (.inr ⟨tree, next, rest, error, rfl, notClosed, closed_of_notClosed notClosed⟩)

theorem read_primary_of_noOperand {fault : Fault} (noOperand : NoOperand limit depth input fault) :
    read limit depth .primary index input = .error (.raised ⟨index, fault⟩) := by
  cases noOperand with
  | nil => exact read_primary_nil
  | closeParen => exact read_primary_closeParen
  | operator => exact read_primary_operator
  | openParen tooDeep => exact read_primary_tooDeep tooDeep

/-- An identifier is read, a group is entered, or no operand begins. -/
theorem primary_cases (limit : Int) (depth : Nat) (input : List Token) :
    (∃ text rest, input = .identifier text :: rest) ∨
      (∃ inner, input = .openParen :: inner ∧ (depth : Int) < limit) ∨
      ∃ fault, NoOperand limit depth input fault := by
  rcases input with _ | ⟨text | operator | _ | _, rest⟩
  · exact .inr (.inr ⟨_, .nil⟩)
  · exact .inl ⟨text, rest, rfl⟩
  · exact .inr (.inr ⟨_, .operator operator rest⟩)
  · by_cases fits : (depth : Int) < limit
    · exact .inr (.inl ⟨rest, rfl, fits⟩)
    · exact .inr (.inr ⟨_, .openParen (Int.not_lt.mp fits) rest⟩)
  · exact .inr (.inr ⟨_, .closeParen rest⟩)

theorem exception_or_ends (rest : List Token) :
    (∃ after, rest = .operator .exception :: after) ∨ Level.withExpr.Ends rest := by
  rcases rest with _ | ⟨_ | ⟨_ | _ | _⟩ | _ | _, after⟩ <;> simp [Level.Ends, Level.Takes]

/-! ## Induction on the input -/

theorem length_lt_of_read (reads : read limit depth level index input = .ok (tree, next, rest)) :
    rest.length < input.length := by
  have erasedShorter {bound : Nat} {result : Except ParseFailure (Parsed bound)}
      (same : erased result = .ok (tree, next, rest)) : rest.length < bound := by
    cases result with
    | error failure => cases same
    | ok parsed =>
        cases same
        exact parsed.length_rest
  cases level <;> exact erasedShorter reads

/-- A group is read by its inside, which is shorter; all other levels are read by tighter
ones on inputs that are no longer. -/
theorem level_induction {motive : Level → List Token → Prop}
    (primary : ∀ input, (∀ inner, inner.length < input.length → motive .orExpr inner) →
      motive .primary input)
    (withExpr : ∀ input, (∀ other, other.length ≤ input.length → motive .primary other) →
      motive .withExpr input)
    (chain : ∀ {level operand operator}, Chains level operand operator → ∀ input,
      (∀ other, other.length ≤ input.length → motive operand other) → motive level input)
    (level : Level) (input : List Token) : motive level input := by
  induction lengthEq : input.length using Nat.strongRecOn generalizing level input with
  | ind length ih =>
    have onPrimary (other : List Token) (shorter : other.length ≤ length) :
        motive .primary other :=
      primary other fun inner innerShorter => ih _ (by omega) .orExpr inner rfl
    have onWithExpr (other : List Token) (shorter : other.length ≤ length) :
        motive .withExpr other :=
      withExpr other fun inner innerShorter => onPrimary inner (by omega)
    have onAndExpr (other : List Token) (shorter : other.length ≤ length) :
        motive .andExpr other :=
      chain .and other fun inner innerShorter => onWithExpr inner (by omega)
    cases level with
    | orExpr => exact chain .or input fun inner shorter => onAndExpr inner (by omega)
    | andExpr => exact onAndExpr input (by omega)
    | withExpr => exact onWithExpr input (by omega)
    | primary => exact onPrimary input (by omega)

end LicenseExpr.Grammar
