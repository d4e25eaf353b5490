import LicenseExpr.Proofs.Grammar.Acceptance

/-!
# Syntax errors and correct prefixes

An error is reported at the first token that no continuation can repair.  What
stands before it is described by the productions that are at work there:
`Awaits limit before level depth` says that after `before` an expression of
`level` is due, behind `depth` open parentheses.  Whatever is read there, the
list can be completed by closing the parentheses, and a failure of the reading
there is a failure of the whole list.  `FirstFault` lists the ways in which a
reading fails at such a place; it holds exactly of the errors that the parser
raises.
-/

namespace LicenseExpr

/-! ## The texts of the faults -/

namespace Fault

variable {fault : Fault}

theorem detail_eq_unclosedParen_iff :
    fault.detail = "unclosed \"(\"" ↔ fault = .unclosedParen := by
  refine ⟨fun same => ?_, by rintro rfl; rfl⟩
  have start := congrArg (fun text => text.toList.take 3) same
  unfold detail at start
  cases fault with
  | unclosedParen => rfl
  | _ => simp at start

theorem detail_eq_endOfExpression_iff :
    fault.detail = "unexpected end of expression, expected identifier or \"(\"" ↔
      fault = .endOfExpression := by
  refine ⟨fun same => ?_, by rintro rfl; rfl⟩
  have start := congrArg (fun text => text.toList.take 12) same
  unfold detail at start
  cases fault with
  | endOfExpression => rfl
  | afterExpression found =>
      cases found with
      | identifier text => simp [Token.description] at start
      | _ =>
          -- What follows `unexpected ` begins with a quotation mark here.
          simp [Token.description, Text.quote, Text.quoted] at start
          rcases Text.eq_or_of_quoteMark_eq start with other | other <;> simp at other
  | _ => simp at start

end Fault

namespace Grammar

/-! ## Where an expression is due -/

variable {limit maxDepth : Int} {depth index next : Nat} {before input rest tokens : List Token}
  {left tree : Tree} {level operand : Level} {operator : Operator} {error : SyntaxError}
  {failure : ParseFailure}

/-- After the tokens `before` an expression of a level is due, behind `depth` open
parentheses. -/
inductive Awaits (limit : Int) : List Token → Level → Nat → Prop where
  | start : Awaits limit [] .orExpr 0
  | operand {before : List Token} {level operand : Level} {operator : Operator} {depth : Nat}
      (chains : Chains level operand operator) (awaits : Awaits limit before level depth) :
      Awaits limit before operand depth
  | link {before left : List Token} {leftTree : Tree} {level operand : Level}
      {operator : Operator} {depth : Nat} (chains : Chains level operand operator)
      (awaits : Awaits limit before level depth) (first : Derives level left leftTree)
      (fits : Fits limit depth left) :
      Awaits limit (before ++ (left ++ [.operator operator])) operand depth
  | license {before : List Token} {depth : Nat} (awaits : Awaits limit before .withExpr depth) :
      Awaits limit before .primary depth
  | exception {before license : List Token} {licenseTree : Tree} {depth : Nat}
      (awaits : Awaits limit before .withExpr depth)
      (first : Derives .primary license licenseTree) (fits : Fits limit depth license) :
      Awaits limit (before ++ (license ++ [.operator .exception])) .primary depth
  | group {before : List Token} {depth : Nat} (awaits : Awaits limit before .primary depth)
      (fits : (depth : Int) < limit) :
      Awaits limit (before ++ [.openParen]) .orExpr (depth + 1)

namespace Awaits

/-- Where an or-expression is due, so is its first operand. -/
theorem first_operand (awaits : Awaits limit before .orExpr depth) :
    Awaits limit before .primary depth := by
  have andExpr : Awaits limit before .andExpr depth := .operand .or awaits
  have withExpr : Awaits limit before .withExpr depth := .operand .and andExpr
  exact .license withExpr

theorem depthAfter_eq (awaits : Awaits limit before level depth) :
    depthAfter 0 before = depth := by
  induction awaits with
  | start => rfl
  | operand chains awaits ih => exact ih
  | link chains awaits first fits ih => simp [ih, first.depthAfter_eq, depthAfter]
  | license awaits ih => exact ih
  | exception awaits first fits ih => simp [ih, first.depthAfter_eq, depthAfter]
  | group awaits fits ih => simp [ih, depthAfter]

theorem fits (awaits : Awaits limit before level depth) : Fits limit 0 before := by
  induction awaits with
  | start => trivial
  | operand chains awaits ih => exact ih
  | link chains awaits first fits ih =>
      simp [ih, awaits.depthAfter_eq, fits, Fits]
  | license awaits ih => exact ih
  | exception awaits first fits ih =>
      simp [ih, awaits.depthAfter_eq, fits, Fits]
  | group awaits fits ih => simp [ih, awaits.depthAfter_eq, fits, Fits]

/-- An expression is due at the start, after an operator and after an opening
parenthesis. -/
theorem eq_nil_or_getLast? (awaits : Awaits limit before level depth) :
    before = [] ∨ before.getLast? = some .openParen ∨
      ∃ operator, before.getLast? = some (.operator operator) := by
  induction awaits with
  | start => exact .inl rfl
  | operand chains awaits ih => exact ih
  | @link _ _ _ _ _ operator _ chains awaits first fits ih =>
      exact .inr (.inr ⟨operator, by simp [List.getLast?_append]⟩)
  | license awaits ih => exact ih
  | exception awaits first fits ih =>
      exact .inr (.inr ⟨.exception, by simp [List.getLast?_append]⟩)
  | group awaits fits ih => exact .inr (.inl List.getLast?_concat)

/-- With the expression that is due and the open parentheses closed the list is derived. -/
theorem exists_derives (awaits : Awaits limit before level depth)
    (derives : Derives level tokens tree) :
    ∃ whole, Derives .orExpr (before ++ (tokens ++ .replicate depth .closeParen)) whole := by
  induction awaits generalizing tokens tree with
  | start => exact ⟨tree, by simpa using derives⟩
  | operand chains awaits ih => exact ih (.operand chains derives)
  | link chains awaits first fits ih => simpa using ih (.link chains first derives)
  | license awaits ih => exact ih (.license derives)
  | exception awaits first fits ih => simpa using ih (.exception first derives)
  | group awaits fits ih => simpa [List.replicate_succ] using ih (.group derives)

/-- A failure of the reading that is due is a failure of the whole list. -/
theorem read_eq_error (awaits : Awaits limit before level depth)
    (fails : read limit depth level before.length input = .error failure) :
    read limit 0 .orExpr 0 (before ++ input) = .error failure := by
  induction awaits generalizing input with
  | start => exact fails
  | operand chains awaits ih =>
      apply ih
      rw [read_chain chains, fails, begun]
  | @link before left leftTree level operand operator depth chains awaits first fits ih =>
      have goesOn : operand.Ends (.operator operator :: input) :=
        ends_operator.mpr chains.not_takes
      rw [List.append_assoc]
      apply ih
      rw [List.append_assoc, List.singleton_append,
        first.read_eq_chained fits (chains.lastOperand_eq ▸ goesOn), chained_link chains]
      simp only [List.length_append, List.length_singleton, ← Nat.add_assoc] at fails
      rw [fails, linked]
  | license awaits ih =>
      apply ih
      rw [read_withExpr, fails, licensed]
  | @exception before license licenseTree depth awaits first fits ih =>
      rw [List.append_assoc]
      apply ih
      rw [List.append_assoc, List.singleton_append, read_withExpr,
        first.read_eq fits ends_primary, licensed]
      simp only [List.length_append, List.length_singleton, ← Nat.add_assoc] at fails
      rw [fails, excepted]
  | group awaits fits ih =>
      rw [List.append_assoc]
      apply ih
      rw [List.length_append, List.length_singleton] at fails
      rw [List.singleton_append, read_primary_openParen fits, fails, closed]

end Awaits

/-! ## The first fault of a list -/

/-- A list of tokens with the fault that shows first when it is read from the left. -/
inductive FirstFault (limit : Int) : List Token → SyntaxError → Prop where
  | noOperand {before input : List Token} {depth : Nat} {fault : Fault}
      (awaits : Awaits limit before .primary depth)
      (noOperand : NoOperand limit depth input fault) :
      FirstFault limit (before ++ input) ⟨before.length, fault⟩
  | notClosed {before inner rest : List Token} {depth : Nat} {tree : Tree} {error : SyntaxError}
      (awaits : Awaits limit before .primary depth) (fits : (depth : Int) < limit)
      (derives : Derives .orExpr inner tree) (innerFits : Fits limit (depth + 1) inner)
      (ends : Level.orExpr.Ends rest)
      (notClosed : NotClosed before.length (before.length + 1 + inner.length) rest error) :
      FirstFault limit (before ++ .openParen :: (inner ++ rest)) error
  | chained {before license exception rest : List Token} {depth : Nat}
      {licenseTree exceptionTree : Tree} (awaits : Awaits limit before .withExpr depth)
      (first : Derives .primary license licenseTree) (fits : Fits limit depth license)
      (last : Derives .primary exception exceptionTree) (lastFits : Fits limit depth exception) :
      FirstFault limit
        (before ++ (license ++ .operator .exception :: (exception ++ .operator .exception :: rest)))
        ⟨before.length + license.length + 1 + exception.length, .chainedException⟩
  | unmatched {tokens rest : List Token} {tree : Tree} (derives : Derives .orExpr tokens tree)
      (fits : Fits limit 0 tokens) :
      FirstFault limit (tokens ++ .closeParen :: rest) ⟨tokens.length, .unmatchedParen⟩
  | afterExpression {tokens rest : List Token} {found : Token} {tree : Tree}
      (derives : Derives .orExpr tokens tree) (fits : Fits limit 0 tokens)
      (ends : Level.orExpr.Ends (found :: rest)) (other : found ≠ .closeParen) :
      FirstFault limit (tokens ++ found :: rest) ⟨tokens.length, .afterExpression found⟩

/-- The parser raises the first fault. -/
theorem FirstFault.parse_eq (faulty : FirstFault (min maxDepth depthCap) tokens error) :
    parse maxDepth tokens = .error (.raised error) := by
  rw [parse_eq_finished]
  cases faulty with
  | noOperand awaits noOperand =>
      rw [awaits.read_eq_error (read_primary_of_noOperand noOperand), finished]
  | @notClosed before inner rest depth tree error awaits fits derives innerFits ends notClosed =>
      have fails : read (min maxDepth depthCap) depth .primary before.length
          (.openParen :: (inner ++ rest)) = .error (.raised error) := by
        rw [read_primary_openParen fits, derives.read_eq innerFits ends,
          closed_of_notClosed notClosed]
      rw [awaits.read_eq_error fails, finished]
  | @chained before license exception rest depth _ _ awaits first fits last lastFits =>
      have fails : read (min maxDepth depthCap) depth .withExpr before.length
          (license ++ .operator .exception :: (exception ++ .operator .exception :: rest)) =
            .error (.raised
              ⟨before.length + license.length + 1 + exception.length, .chainedException⟩) := by
        rw [read_withExpr, first.read_eq fits ends_primary, licensed,
          last.read_eq lastFits ends_primary, excepted]
      rw [awaits.read_eq_error fails, finished]
  | unmatched derives fits => rw [derives.read_eq fits ends_closeParen, finished, Nat.zero_add]
  | @afterExpression tokens rest found tree derives fits ends other =>
      rw [derives.read_eq fits ends, Nat.zero_add]
      cases found <;> simp_all [finished]

/-- A failure of a list is what comes of raising its first fault. -/
def RaisedFirst (limit : Int) (tokens : List Token) (failure : ParseFailure) : Prop :=
  ∃ error, failure = .raised error ∧ FirstFault limit tokens error

private theorem raisedFirst_of_primary
    (innerFails : ∀ inner, inner.length < input.length → ∀ {depth before failure},
      Awaits limit before .orExpr depth →
      read limit depth .orExpr before.length inner = .error failure →
        RaisedFirst limit (before ++ inner) failure)
    (awaits : Awaits limit before .primary depth)
    (fails : read limit depth .primary before.length input = .error failure) :
    RaisedFirst limit (before ++ input) failure := by
  rcases primary_cases limit depth input with
    ⟨text, rest, rfl⟩ | ⟨inner, rfl, fits⟩ | ⟨fault, noOperand⟩
  · simp [read_primary_identifier] at fails
  · rw [read_primary_openParen fits] at fails
    rcases closed_cases before.length
        (read limit (depth + 1) .orExpr (before.length + 1) inner) with
      ⟨failure, orExprFails, closes⟩ | ⟨_, _, _, -, closes⟩ |
        ⟨tree, next, rest, error, innerReads, notClosed, closes⟩
    · rw [closes] at fails
      cases fails
      have := innerFails inner (by simp) (awaits.group fits) (by simpa using orExprFails)
      simpa using this
    · simp [closes] at fails
    · rw [closes] at fails
      cases fails
      obtain ⟨tokens, rfl, rfl, derives, innerFits, ends⟩ := taken_of_read innerReads
      exact ⟨error, rfl, .notClosed awaits fits derives innerFits ends notClosed⟩
  · rw [read_primary_of_noOperand noOperand] at fails
    cases fails
    exact ⟨_, rfl, .noOperand awaits noOperand⟩

private theorem raisedFirst_of_withExpr
    (primaryFails : ∀ other, other.length ≤ input.length → ∀ {before failure},
      Awaits limit before .primary depth →
      read limit depth .primary before.length other = .error failure →
        RaisedFirst limit (before ++ other) failure)
    (awaits : Awaits limit before .withExpr depth)
    (fails : read limit depth .withExpr before.length input = .error failure) :
    RaisedFirst limit (before ++ input) failure := by
  rw [read_withExpr] at fails
  cases first : read limit depth .primary before.length input with
  | error other =>
      rw [first, licensed] at fails
      cases fails
      exact primaryFails input (Nat.le_refl _) awaits.license first
  | ok license =>
      obtain ⟨licenseTree, middle, remaining⟩ := license
      obtain ⟨license, rfl, rfl, licenseDerives, licenseFits, -⟩ := taken_of_read first
      rw [first] at fails
      rcases exception_or_ends remaining with ⟨after, rfl⟩ | ends
      · rw [licensed, Nat.add_assoc] at fails
        have awaitsException := awaits.exception licenseDerives licenseFits
        cases last : read limit depth .primary (before.length + (license.length + 1)) after with
        | error other =>
            rw [last, excepted] at fails
            cases fails
            have := primaryFails after (by simp; omega) awaitsException (by simpa using last)
            simpa using this
        | ok exception =>
            obtain ⟨exceptionTree, next, rest⟩ := exception
            obtain ⟨exception, rfl, rfl, exceptionDerives, exceptionFits, -⟩ :=
              taken_of_read last
            rw [last] at fails
            rcases exception_or_ends rest with ⟨after, rfl⟩ | ends
            · rw [excepted] at fails
              cases fails
              exact ⟨_, rfl,
                .chained awaits licenseDerives licenseFits exceptionDerives exceptionFits⟩
            · simp [excepted_of_ends ends] at fails
      · simp [licensed_of_ends ends] at fails

private theorem raisedFirst_of_chained (chains : Chains level operand operator) {bound : Nat}
    (operandFails : ∀ other, other.length ≤ bound → ∀ {before failure},
      Awaits limit before operand depth →
      read limit depth operand before.length other = .error failure →
        RaisedFirst limit (before ++ other) failure)
    (awaits : Awaits limit before level depth) (derives : Derives level tokens left)
    (fits : Fits limit depth tokens) (shorter : input.length ≤ bound) (ends : operand.Ends input)
    (fails : chained limit depth level left (before.length + tokens.length) input =
      .error failure) :
    RaisedFirst limit (before ++ (tokens ++ input)) failure := by
  induction lengthEq : input.length using Nat.strongRecOn generalizing tokens left input with
  | ind length ih =>
    rcases chains.goesOn_or_ends ends with ⟨after, rfl⟩ | ends
    · simp only [List.length_cons] at shorter lengthEq
      rw [chained_link chains, Nat.add_assoc] at fails
      cases next : read limit depth operand (before.length + (tokens.length + 1)) after with
      | error other =>
          rw [next, linked] at fails
          cases fails
          have := operandFails after (by omega) (awaits.link chains derives fits)
            (by simpa using next)
          simpa using this
      | ok right =>
          obtain ⟨rightTree, middle, remaining⟩ := right
          have remainingShorter := length_lt_of_read next
          obtain ⟨right, rfl, rfl, rightDerives, rightFits, ends⟩ := taken_of_read next
          rw [next, linked] at fails
          have linkedFits : Fits limit depth (tokens ++ .operator operator :: right) :=
            derives.fits_operator.mpr ⟨fits, rightFits⟩
          have := ih remaining.length (by omega) (.link chains derives rightDerives) linkedFits
            (by omega) ends (by simpa [Nat.add_assoc, Nat.add_comm 1] using fails) rfl
          simpa using this
    · simp [chained_of_ends ends] at fails

/-- A reading that is due fails with the first fault of the list. -/
theorem raisedFirst_of_read (awaits : Awaits limit before level depth)
    (fails : read limit depth level before.length input = .error failure) :
    RaisedFirst limit (before ++ input) failure := by
  induction level, input using level_induction generalizing depth before failure with
  | primary input ih =>
      exact raisedFirst_of_primary (fun inner shorter => ih inner shorter) awaits fails
  | withExpr input ih =>
      exact raisedFirst_of_withExpr (fun other shorter => ih other shorter) awaits fails
  | @chain level operand operator chains input ih =>
      rw [read_chain chains] at fails
      cases first : read limit depth operand before.length input with
      | error other =>
          rw [first, begun] at fails
          cases fails
          exact ih input (Nat.le_refl _) (awaits.operand chains) first
      | ok left =>
          obtain ⟨leftTree, middle, remaining⟩ := left
          obtain ⟨left, rfl, rfl, derives, fits, ends⟩ := taken_of_read first
          rw [first, begun] at fails
          exact raisedFirst_of_chained chains (fun other shorter => ih other shorter) awaits
            (.operand chains derives) fits (by simp) ends fails

/-- The parser fails with the first faults. -/
theorem parse_eq_error_iff :
    parse maxDepth tokens = .error failure ↔
      RaisedFirst (min maxDepth depthCap) tokens failure := by
  refine ⟨fun fails => ?_, by rintro ⟨error, rfl, faulty⟩; exact faulty.parse_eq⟩
  rw [parse_eq_finished] at fails
  cases reads : read (min maxDepth depthCap) 0 .orExpr 0 tokens with
  | error other =>
      rw [reads, finished] at fails
      cases fails
      exact raisedFirst_of_read .start reads
  | ok taken =>
      obtain ⟨tree, next, rest⟩ := taken
      obtain ⟨tokens, rfl, rfl, derives, fits, ends⟩ := taken_of_read reads
      rw [reads] at fails
      cases rest with
      | nil => simp [finished] at fails
      | cons found rest =>
          by_cases closes : found = .closeParen
          · subst closes
            cases fails
            exact ⟨_, rfl, by simpa using .unmatched derives fits⟩
          · have : failure = .raised ⟨tokens.length, .afterExpression found⟩ := by
              cases found <;> simp_all [finished]
            exact ⟨_, this, .afterExpression derives fits ends closes⟩

/-- The syntax errors of the parser are the first faults that can be written. -/
theorem parse_eq_syntaxError_iff :
    parse maxDepth tokens = .error (.syntaxError error) ↔
      FirstFault (min maxDepth depthCap) tokens error ∧ error.fault.isWritable = true := by
  rw [parse_eq_error_iff]
  constructor
  · rintro ⟨other, same, faulty⟩
    obtain ⟨rfl, writable⟩ := ParseFailure.raised_eq_syntaxError_iff.mp same.symm
    exact ⟨faulty, writable⟩
  · rintro ⟨faulty, writable⟩
    exact ⟨error, (ParseFailure.raised_eq_syntaxError_iff.mpr ⟨rfl, writable⟩).symm, faulty⟩

/-! ## Where the first fault shows -/

/-- Some continuation of the tokens is accepted. -/
def Viable (maxDepth : Int) (tokens : List Token) : Prop :=
  ∃ more tree, parse maxDepth (tokens ++ more) = .ok tree

/-- What begins an expression that is due can be completed. -/
theorem Awaits.viable {more : List Token}
    (awaits : Awaits (min maxDepth depthCap) before level depth)
    (derives : Derives level (tokens ++ more) tree)
    (fits : Fits (min maxDepth depthCap) depth (tokens ++ more)) :
    Viable maxDepth (before ++ tokens) := by
  obtain ⟨whole, wholeDerives⟩ := awaits.exists_derives derives
  refine ⟨more ++ .replicate depth .closeParen, whole, parse_eq_ok_iff.mpr ⟨?_, ?_⟩⟩
  · simpa using wholeDerives
  · rw [fits_append] at fits
    simpa [awaits.fits, awaits.depthAfter_eq, fits] using fits_replicate_closeParen depth

theorem Awaits.viable_before (awaits : Awaits (min maxDepth depthCap) before .primary depth) :
    Viable maxDepth before := by
  have derives : Derives .primary ([] ++ [.identifier "x"]) (.identifier "x") := .identifier "x"
  have := awaits.viable derives trivial
  rwa [List.append_nil] at this

theorem Awaits.viable_after (awaits : Awaits (min maxDepth depthCap) before level depth)
    (derives : Derives level tokens tree) (fits : Fits (min maxDepth depthCap) depth tokens) :
    Viable maxDepth (before ++ tokens) := by
  rw [← List.append_nil tokens] at derives fits
  exact awaits.viable derives fits

/-- The token that an error points to is the first that no continuation can repair. -/
structure Irreparable (maxDepth : Int) (tokens : List Token) (error : SyntaxError) : Prop where
  index_lt : error.index < tokens.length
  viable_before : Viable maxDepth (tokens.take error.index)
  not_viable : ¬ Viable maxDepth (tokens.take (error.index + 1))
  rejected : ∀ other, tokens.take (error.index + 1) <+: other →
    parse maxDepth other = .error (.raised error)

private theorem irreparable_of_forall (found : Token) (after : List Token)
    (atFound : tokens = before ++ found :: after) (indexEq : error.index = before.length)
    (viable : Viable maxDepth before)
    (faulty : ∀ after, FirstFault (min maxDepth depthCap) (before ++ found :: after) error) :
    Irreparable maxDepth tokens error := by
  subst atFound
  have upToFound : (before ++ found :: after).take (error.index + 1) = before ++ [found] := by
    rw [List.append_cons, List.take_left' (by simp [indexEq])]
  have rejected (more : List Token) :
      parse maxDepth (before ++ [found] ++ more) = .error (.raised error) := by
    simpa using (faulty more).parse_eq
  constructor
  case index_lt => simp [indexEq]
  case viable_before => simpa [indexEq] using viable
  case not_viable =>
    rw [upToFound]
    rintro ⟨more, tree, parses⟩
    rw [rejected more] at parses
    cases parses
  case rejected =>
    rw [upToFound]
    rintro other ⟨more, rfl⟩
    exact rejected more

namespace FirstFault

theorem awaits_of_endOfExpression (faulty : FirstFault limit tokens error)
    (ended : error.fault = .endOfExpression) :
    error.index = tokens.length ∧ ∃ depth, Awaits limit tokens .primary depth := by
  cases faulty with
  | @noOperand before input depth fault awaits noOperand =>
      cases noOperand with
      | nil =>
          rw [List.append_nil]
          exact ⟨rfl, depth, awaits⟩
      | _ => simp at ended
  | notClosed awaits fits derives innerFits ends notClosed => cases notClosed <;> simp at ended
  | _ => simp at ended

theorem group_of_unclosedParen (faulty : FirstFault limit tokens error)
    (unclosed : error.fault = .unclosedParen) :
    ∃ before inner depth tree, tokens = before ++ .openParen :: inner ∧
      error.index = before.length ∧ Awaits limit before .primary depth ∧
      (depth : Int) < limit ∧ Derives .orExpr inner tree ∧ Fits limit (depth + 1) inner := by
  cases faulty with
  | noOperand awaits noOperand => cases noOperand <;> simp at unclosed
  | @notClosed before inner rest depth tree error awaits fits derives innerFits ends notClosed =>
      cases notClosed with
      | nil =>
          exact ⟨before, inner, depth, tree, by simp, rfl, awaits, fits, derives, innerFits⟩
      | cons found after other => simp at unclosed
  | _ => simp at unclosed

theorem awaits_of_nestedTooDeep {other : Int} (faulty : FirstFault limit tokens error)
    (nested : error.fault = .nestedTooDeep other) :
    other = limit ∧ ∃ before depth after, tokens = before ++ .openParen :: after ∧
      Awaits limit before .primary depth ∧ limit ≤ depth := by
  cases faulty with
  | @noOperand before input depth fault awaits noOperand =>
      cases noOperand with
      | openParen tooDeep after =>
          cases nested
          exact ⟨rfl, before, depth, after, rfl, awaits, tooDeep⟩
      | _ => simp at nested
  | notClosed awaits fits derives innerFits ends notClosed => cases notClosed <;> simp at nested
  | _ => simp at nested

theorem irreparable (faulty : FirstFault (min maxDepth depthCap) tokens error)
    (notEnded : error.fault ≠ .endOfExpression) (notUnclosed : error.fault ≠ .unclosedParen) :
    Irreparable maxDepth tokens error := by
  cases faulty with
  | noOperand awaits noOperand =>
      cases noOperand with
      | nil => exact absurd rfl notEnded
      | closeParen =>
          exact irreparable_of_forall _ _ rfl rfl awaits.viable_before fun after =>
            .noOperand awaits (.closeParen after)
      | operator operator =>
          exact irreparable_of_forall _ _ rfl rfl awaits.viable_before fun after =>
            .noOperand awaits (.operator operator after)
      | openParen tooDeep =>
          exact irreparable_of_forall _ _ rfl rfl awaits.viable_before fun after =>
            .noOperand awaits (.openParen tooDeep after)
  | @notClosed before inner _ _ _ _ awaits fits derives innerFits ends notClosed =>
      cases notClosed with
      | nil => exact absurd rfl notUnclosed
      | cons found after other =>
          have viable : Viable maxDepth (before ++ .openParen :: inner) :=
            awaits.viable (.group derives) (fits_group.mpr ⟨fits, innerFits⟩)
          refine irreparable_of_forall found after (by simp)
            (by simp; omega) viable fun after => ?_
          have := FirstFault.notClosed awaits fits derives innerFits
            (ends_cons.mpr (ends_cons.mp ends)) (.cons found after other)
          simpa using this
  | @chained before license exception rest _ _ _ awaits first fits last lastFits =>
      have viable : Viable maxDepth (before ++ (license ++ .operator .exception :: exception)) :=
        awaits.viable_after (.exception first last)
          (first.fits_operator.mpr ⟨fits, lastFits⟩)
      refine irreparable_of_forall (.operator .exception) rest (by simp)
        (by simp; omega) viable fun after => ?_
      have : FirstFault (min maxDepth depthCap) (before ++ (license ++ .operator .exception ::
          (exception ++ .operator .exception :: after))) ⟨_, .chainedException⟩ :=
        .chained awaits first fits last lastFits
      simpa using this
  | unmatched derives fits =>
      exact irreparable_of_forall _ _ rfl rfl (Awaits.start.viable_after derives fits) fun after =>
        .unmatched derives fits
  | afterExpression derives fits ends other =>
      exact irreparable_of_forall _ _ rfl rfl (Awaits.start.viable_after derives fits) fun after =>
        .afterExpression derives fits (ends_cons.mpr (ends_cons.mp ends)) other

end FirstFault

/-- No syntax error is reported exactly where the limit cannot be written and an operand begins with
a parenthesis that exceeds it. -/
theorem parse_eq_integerTooLong_iff :
    parse maxDepth tokens = .error .integerTooLong ↔
      Text.hasWritableLength (min maxDepth depthCap) = false ∧
        ∃ before depth after, tokens = before ++ .openParen :: after ∧
          Awaits (min maxDepth depthCap) before .primary depth ∧
            min maxDepth depthCap ≤ depth := by
  rw [parse_eq_error_iff]
  constructor
  · rintro ⟨error, same, faulty⟩
    obtain ⟨other, isFault, unwritable⟩ := Fault.eq_nestedTooDeep_of_isWritable
      (ParseFailure.raised_eq_integerTooLong_iff.mp same.symm)
    obtain ⟨rfl, exceeds⟩ := faulty.awaits_of_nestedTooDeep isFault
    exact ⟨unwritable, exceeds⟩
  · rintro ⟨unwritable, before, depth, after, rfl, awaits, tooDeep⟩
    refine ⟨_, Eq.symm ?_, .noOperand awaits (.openParen tooDeep after)⟩
    exact ParseFailure.raised_eq_integerTooLong_iff.mpr unwritable

/-- An early end and an unclosed parenthesis show behind the last token, and tokens can still
be added; every other error points to the first token that no continuation repairs, and
nothing behind that token has a part in it. -/
theorem parse_error_at_first_irreparable_token {maxDepth : Int} {tokens : List Token}
    {error : SyntaxError} (fails : parse maxDepth tokens = .error (.syntaxError error)) :
    (error.fault.detail = "unexpected end of expression, expected identifier or \"(\"" →
      error.index = tokens.length ∧ Viable maxDepth tokens ∧
        (tokens = [] ∨ tokens.getLast? = some .openParen ∨
          ∃ operator, tokens.getLast? = some (.operator operator))) ∧
    (error.fault.detail = "unclosed \"(\"" →
      Viable maxDepth tokens ∧
        ((∃ text, tokens.getLast? = some (.identifier text)) ∨
          tokens.getLast? = some .closeParen) ∧
        (openParens tokens).head? = some error.index) ∧
    (error.fault.detail ≠ "unexpected end of expression, expected identifier or \"(\"" →
      error.fault.detail ≠ "unclosed \"(\"" →
      error.index < tokens.length ∧ Viable maxDepth (tokens.take error.index) ∧
        ¬ Viable maxDepth (tokens.take (error.index + 1)) ∧
        ∀ other, tokens.take (error.index + 1) <+: other →
          parse maxDepth other = .error (.syntaxError error)) := by
  obtain ⟨faulty, writable⟩ := parse_eq_syntaxError_iff.mp fails
  simp only [ne_eq, Fault.detail_eq_endOfExpression_iff, Fault.detail_eq_unclosedParen_iff]
  refine ⟨fun ended => ?_, fun unclosed => ?_, fun notEnded notUnclosed => ?_⟩
  · obtain ⟨indexEq, depth, awaits⟩ := faulty.awaits_of_endOfExpression ended
    exact ⟨indexEq, awaits.viable_before, awaits.eq_nil_or_getLast?⟩
  · obtain ⟨before, inner, depth, tree, rfl, indexEq, awaits, fits, derives, innerFits⟩ :=
      faulty.group_of_unclosedParen unclosed
    refine ⟨?_, ?_, ?_⟩
    · exact awaits.viable (.group derives) (fits_group.mpr ⟨fits, innerFits⟩)
    · obtain ⟨last, isLast, completes⟩ := derives.exists_getLast?
      have isLast : (before ++ .openParen :: inner).getLast? = some last := by
        simp [List.getLast?_append, List.getLast?_cons, isLast]
      rw [isLast]
      cases last <;> simp_all [CompletesOperand]
    · simp [openParens, openFrom, derives.openFrom_eq, indexEq]
  · obtain ⟨indexLt, viable, notViable, rejected⟩ := faulty.irreparable notEnded notUnclosed
    rw [ParseFailure.raised_eq_syntaxError_iff.mpr ⟨rfl, writable⟩] at rejected
    exact ⟨indexLt, viable, notViable, rejected⟩

/-- In `(a WITH b WITH)` nothing repairs the second exception operator. -/
theorem parse_error_at_second_exception :
    parse 64 [.openParen, .identifier "a", .operator .exception, .identifier "b",
      .operator .exception, .closeParen] = .error (.syntaxError ⟨4, .chainedException⟩) ∧
    Viable 64 [.openParen, .identifier "a", .operator .exception, .identifier "b"] ∧
    ¬ Viable 64 [.openParen, .identifier "a", .operator .exception, .identifier "b",
      .operator .exception] := by
  have awaits : Awaits (min 64 depthCap) [.openParen] .withExpr 1 :=
    .operand .and (.operand .or (.group Awaits.start.first_operand (by decide)))
  have fails : parse 64 [.openParen, .identifier "a", .operator .exception, .identifier "b",
      .operator .exception, .closeParen] = .error (.syntaxError ⟨4, .chainedException⟩) :=
    parse_eq_syntaxError_iff.mpr
      ⟨.chained awaits (.identifier "a") trivial (.identifier "b") trivial, rfl⟩
  obtain ⟨-, -, irreparable⟩ := parse_error_at_first_irreparable_token fails
  obtain ⟨-, viable, notViable, -⟩ := irreparable (by decide) (by decide)
  exact ⟨fails, viable, notViable⟩

end Grammar

/-- A text whose tokens have a first fault is not parsed because of this fault. -/
theorem parse?_eq_syntaxError {options : Options} {text : String} {tokens : List Token}
    {error : SyntaxError} (cut : Token.tokenize options.anyCase text = tokens)
    (faulty : Grammar.FirstFault (min options.maxDepth depthCap) tokens error)
    (writable : error.fault.isWritable = true) :
    parse? options text = .error (.syntaxError error) := by
  rw [parse?, cut]
  exact Grammar.parse_eq_syntaxError_iff.mpr ⟨faulty, writable⟩

end LicenseExpr
