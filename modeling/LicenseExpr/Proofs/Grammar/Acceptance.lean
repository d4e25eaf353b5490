import LicenseExpr.Proofs.Grammar.Reading

/-!
# What the parser accepts

A reading of a level takes exactly a derived list of tokens from the front of
its input, up to a token that ends the level, and it takes every such list.  A
reading that fails raises an error at a token of its input, or at the end.

So the parser accepts the derived lists that are nested within its limit, with
the trees of their derivations; the limit has no part in the tree.  For all
other lists it reports a syntax error, unless the error would have to show a
limit that cannot be written.
-/

namespace LicenseExpr

namespace Grammar

variable {limit : Int} {depth index next : Nat} {input rest tokens : List Token}
  {left tree : Tree} {level operand : Level} {operator : Operator} {error : SyntaxError}
  {failure : ParseFailure}

/-! ## Every derived list is read -/

/-- A derived list is read, and the level goes on as a chain after it.  What follows need
only end the last operand. -/
theorem Derives.read_eq_chained (derives : Derives level tokens tree)
    (fits : Fits limit depth tokens) (ends : level.lastOperand.Ends rest) :
    read limit depth level index (tokens ++ rest) =
      chained limit depth level tree (index + tokens.length) rest := by
  induction derives generalizing depth index rest with
  | operand chains only ih =>
      rw [chains.lastOperand_eq] at ends
      rw [read_chain chains, ih fits ends.lastOperand, chained_of_ends ends, begun]
  | @link level operand operator left right leftTree rightTree chains first last firstIH lastIH =>
      rw [chains.lastOperand_eq] at ends firstIH
      rw [first.fits_operator] at fits
      have goesOn : operand.Ends (.operator operator :: (right ++ rest)) :=
        ends_operator.mpr chains.not_takes
      rw [List.append_assoc, List.cons_append, firstIH fits.1 goesOn, chained_link chains,
        lastIH fits.2 ends.lastOperand, chained_of_ends ends, linked]
      simp [Nat.add_assoc, Nat.add_comm 1]
  | license only ih =>
      have ends : Level.withExpr.Ends rest := ends
      rw [read_withExpr, ih fits ends_primary, chained_of_ends ends_primary,
        licensed_of_ends ends, chained_of_ends ends]
  | @exception license exception licenseTree exceptionTree first last firstIH lastIH =>
      have ends : Level.withExpr.Ends rest := ends
      rw [first.fits_operator] at fits
      rw [List.append_assoc, List.cons_append, read_withExpr, firstIH fits.1 ends_primary,
        chained_of_ends ends_primary, licensed, lastIH fits.2 ends_primary,
        chained_of_ends ends_primary, excepted_of_ends ends, chained_of_ends ends]
      simp [Nat.add_assoc, Nat.add_comm 1]
  | identifier text => exact read_primary_identifier text
  | @group tokens tree inner ih =>
      rw [fits_group] at fits
      rw [List.cons_append, List.append_assoc, read_primary_openParen fits.1,
        List.singleton_append, ih fits.2 ends_closeParen, chained_of_ends ends_closeParen,
        closed, chained_of_ends ends_primary]
      simp [Nat.add_assoc, Nat.add_comm 1]

/-- A derived list is read up to a token that ends the level. -/
theorem Derives.read_eq (derives : Derives level tokens tree) (fits : Fits limit depth tokens)
    (ends : level.Ends rest) :
    read limit depth level index (tokens ++ rest) = .ok (tree, index + tokens.length, rest) := by
  rw [derives.read_eq_chained fits ends.lastOperand, chained_of_ends ends]

/-! ## Nothing else is read -/

/-- A derived list stands at the front of the input, and the level ends behind it. -/
def Taken (limit : Int) (depth : Nat) (level : Level) (index : Nat) (input : List Token) :
    Tree × Nat × List Token → Prop
  | (tree, next, rest) =>
      ∃ tokens, input = tokens ++ rest ∧ next = index + tokens.length ∧
        Derives level tokens tree ∧ Fits limit depth tokens ∧ level.Ends rest

private theorem taken_primary {taken : Tree × Nat × List Token}
    (innerTaken : ∀ inner, inner.length < input.length → ∀ {depth index taken},
      read limit depth .orExpr index inner = .ok taken →
        Taken limit depth .orExpr index inner taken)
    (reads : read limit depth .primary index input = .ok taken) :
    Taken limit depth .primary index input taken := by
  rcases primary_cases limit depth input with
    ⟨text, rest, rfl⟩ | ⟨inner, rfl, fits⟩ | ⟨fault, noOperand⟩
  · rw [read_primary_identifier] at reads
    cases reads
    exact ⟨[.identifier text], rfl, rfl, .identifier text, trivial, ends_primary⟩
  · rw [read_primary_openParen fits] at reads
    rcases closed_cases index (read limit (depth + 1) .orExpr (index + 1) inner) with
      ⟨failure, -, fails⟩ | ⟨tree, next, rest, innerReads, closes⟩ | ⟨_, _, _, error, -, -, fails⟩
    · simp [fails] at reads
    · rw [closes] at reads
      cases reads
      obtain ⟨tokens, rfl, rfl, derives, innerFits, -⟩ := innerTaken inner (by simp) innerReads
      refine ⟨.openParen :: (tokens ++ [.closeParen]), by simp, ?_, .group derives,
        fits_group.mpr ⟨fits, innerFits⟩, ends_primary⟩
      simp only [List.length_cons, List.length_append, List.length_nil]
      omega
    · simp [fails] at reads
  · simp [read_primary_of_noOperand noOperand] at reads

private theorem taken_withExpr {taken : Tree × Nat × List Token}
    (primaryTaken : ∀ other, other.length ≤ input.length → ∀ {depth index taken},
      read limit depth .primary index other = .ok taken →
        Taken limit depth .primary index other taken)
    (reads : read limit depth .withExpr index input = .ok taken) :
    Taken limit depth .withExpr index input taken := by
  rw [read_withExpr] at reads
  cases first : read limit depth .primary index input with
  | error failure => simp [first, licensed] at reads
  | ok license =>
      obtain ⟨licenseTree, middle, remaining⟩ := license
      obtain ⟨license, rfl, rfl, licenseDerives, licenseFits, -⟩ :=
        primaryTaken input (Nat.le_refl _) first
      rw [first] at reads
      rcases exception_or_ends remaining with ⟨after, rfl⟩ | ends
      · simp only [licensed] at reads
        cases last : read limit depth .primary (index + license.length + 1) after with
        | error failure => simp [last, excepted] at reads
        | ok exception =>
            obtain ⟨exceptionTree, next, rest⟩ := exception
            obtain ⟨exception, rfl, rfl, exceptionDerives, exceptionFits, -⟩ :=
              primaryTaken after (by simp; omega) last
            rw [last] at reads
            rcases exception_or_ends rest with ⟨after, rfl⟩ | ends
            · simp [excepted] at reads
            · rw [excepted_of_ends ends] at reads
              cases reads
              refine ⟨license ++ .operator .exception :: exception, by simp, ?_,
                .exception licenseDerives exceptionDerives,
                licenseDerives.fits_operator.mpr ⟨licenseFits, exceptionFits⟩, ends⟩
              simp only [List.length_cons, List.length_append]
              omega
      · rw [licensed_of_ends ends] at reads
        cases reads
        exact ⟨license, rfl, rfl, .license licenseDerives, licenseFits, ends⟩

/-- The operands that are read so far are followed by the rest of the chain. -/
private theorem taken_chained (chains : Chains level operand operator) {bound : Nat}
    (operandTaken : ∀ other, other.length ≤ bound → ∀ {index taken},
      read limit depth operand index other = .ok taken →
        Taken limit depth operand index other taken)
    {before : List Token} (derives : Derives level before left)
    (beforeFits : Fits limit depth before)
    (shorter : input.length ≤ bound) (ends : operand.Ends input)
    {taken : Tree × Nat × List Token}
    (reads : chained limit depth level left (index + before.length) input = .ok taken) :
    Taken limit depth level index (before ++ input) taken := by
  -- On the length of what is left: every operand takes some of it.
  induction lengthEq : input.length using Nat.strongRecOn generalizing before left input with
  | ind length ih =>
    rcases chains.goesOn_or_ends ends with ⟨after, rfl⟩ | ends
    · rw [chained_link chains] at reads
      cases next : read limit depth operand (index + before.length + 1) after with
      | error failure => simp [next, linked] at reads
      | ok right =>
          obtain ⟨rightTree, middle, remaining⟩ := right
          have remainingShorter := length_lt_of_read next
          obtain ⟨right, rfl, rfl, rightDerives, rightFits, ends⟩ :=
            operandTaken after (by simp at shorter; omega) next
          rw [next, linked, Nat.add_assoc, Nat.add_assoc] at reads
          have linkedDerives := Derives.link chains derives rightDerives
          have linkedFits : Fits limit depth (before ++ .operator operator :: right) :=
            derives.fits_operator.mpr ⟨beforeFits, rightFits⟩
          have := ih remaining.length (by simp at lengthEq; omega) linkedDerives linkedFits
            (by simp at shorter; omega) ends (by simpa [Nat.add_comm 1] using reads) rfl
          simpa using this
    · rw [chained_of_ends ends] at reads
      cases reads
      exact ⟨before, rfl, rfl, derives, beforeFits, ends⟩

/-- What is read is derived. -/
theorem taken_of_read {taken : Tree × Nat × List Token}
    (reads : read limit depth level index input = .ok taken) :
    Taken limit depth level index input taken := by
  induction level, input using level_induction generalizing depth index taken with
  | primary input ih => exact taken_primary (fun inner shorter => ih inner shorter) reads
  | withExpr input ih => exact taken_withExpr (fun other shorter => ih other shorter) reads
  | @chain level operand operator chains input ih =>
      rw [read_chain chains] at reads
      cases first : read limit depth operand index input with
      | error failure => simp [first, begun] at reads
      | ok left =>
          obtain ⟨leftTree, middle, remaining⟩ := left
          obtain ⟨left, rfl, rfl, derives, fits, ends⟩ := ih input (Nat.le_refl _) first
          rw [first, begun] at reads
          exact taken_chained chains (fun other shorter => ih other shorter)
            (.operand chains derives) fits (by simp) ends reads

/-- A list of tokens has at most one tree at each level. -/
theorem Derives.tree_unique {other : Tree} (derives : Derives level tokens tree)
    (otherDerives : Derives level tokens other) : tree = other := by
  have fits : Fits ((0 + tokens.length : Nat) : Int) 0 tokens := fits_of_length_le (Int.le_refl _)
  have reads : read _ 0 level 0 (tokens ++ []) = _ := derives.read_eq fits ends_nil
  rw [otherDerives.read_eq fits ends_nil] at reads
  cases reads
  rfl

/-! ## Readings that fail -/

/-- An error shows at a token of the input, which begins at an index, or at its end.  Only the
limit of the reading is exceeded. -/
structure IsWithin (limit : Int) (index : Nat) (input : List Token) (error : SyntaxError) :
    Prop where
  index_le : index ≤ error.index
  le_end : error.index ≤ index + input.length
  limit_eq : ∀ other, error.fault = .nestedTooDeep other → other = limit

/-- A reading raises an error within its input. -/
def RaisedWithin (limit : Int) (index : Nat) (input : List Token) (failure : ParseFailure) : Prop :=
  ∃ error, failure = .raised error ∧ IsWithin limit index input error

theorem RaisedWithin.append {consumed : List Token}
    (raised : RaisedWithin limit (index + consumed.length) rest failure) :
    RaisedWithin limit index (consumed ++ rest) failure := by
  obtain ⟨error, failureEq, after, before, limitEq⟩ := raised
  refine ⟨error, failureEq, by omega, ?_, limitEq⟩
  rw [List.length_append]
  omega

theorem RaisedWithin.cons {token : Token} (raised : RaisedWithin limit (index + 1) rest failure) :
    RaisedWithin limit index (token :: rest) failure := by
  rw [← List.singleton_append]
  exact RaisedWithin.append raised

theorem NoOperand.raisedWithin {fault : Fault} (noOperand : NoOperand limit depth input fault) :
    RaisedWithin limit index input (.raised ⟨index, fault⟩) := by
  refine ⟨_, rfl, Nat.le_refl _, Nat.le_add_right _ _, ?_⟩
  rintro other isFault
  cases noOperand <;> cases isFault
  rfl

theorem NotClosed.raisedWithin (notClosed : NotClosed index (index + 1 + tokens.length) rest error) :
    RaisedWithin limit index (.openParen :: (tokens ++ rest)) (.raised error) := by
  refine ⟨error, rfl, ?_⟩
  cases notClosed with
  | nil => exact ⟨Nat.le_refl _, Nat.le_add_right _ _, by simp⟩
  | cons found after other =>
      refine ⟨?_, ?_, by simp⟩
      · simp only
        omega
      · simp only [List.length_cons, List.length_append]
        omega

private theorem raisedWithin_primary
    (innerRaises : ∀ inner, inner.length < input.length → ∀ {depth index failure},
      read limit depth .orExpr index inner = .error failure →
        RaisedWithin limit index inner failure)
    (fails : read limit depth .primary index input = .error failure) :
    RaisedWithin limit index input failure := by
  rcases primary_cases limit depth input with
    ⟨text, rest, rfl⟩ | ⟨inner, rfl, fits⟩ | ⟨fault, noOperand⟩
  · simp [read_primary_identifier] at fails
  · rw [read_primary_openParen fits] at fails
    rcases closed_cases index (read limit (depth + 1) .orExpr (index + 1) inner) with
      ⟨failure, innerFails, closes⟩ | ⟨_, _, _, -, closes⟩ |
        ⟨tree, next, rest, error, reads, notClosed, closes⟩
    · rw [closes] at fails
      cases fails
      exact (innerRaises inner (by simp) innerFails).cons
    · simp [closes] at fails
    · rw [closes] at fails
      cases fails
      obtain ⟨tokens, rfl, rfl, -⟩ := taken_of_read reads
      exact notClosed.raisedWithin
  · rw [read_primary_of_noOperand noOperand] at fails
    cases fails
    exact noOperand.raisedWithin

private theorem raisedWithin_withExpr
    (primaryRaises : ∀ other, other.length ≤ input.length → ∀ {index failure},
      read limit depth .primary index other = .error failure →
        RaisedWithin limit index other failure)
    (fails : read limit depth .withExpr index input = .error failure) :
    RaisedWithin limit index input failure := by
  rw [read_withExpr] at fails
  cases first : read limit depth .primary index input with
  | error other =>
      rw [first, licensed] at fails
      cases fails
      exact primaryRaises input (Nat.le_refl _) first
  | ok license =>
      obtain ⟨licenseTree, middle, remaining⟩ := license
      obtain ⟨license, rfl, rfl, -⟩ := taken_of_read first
      rw [first] at fails
      refine RaisedWithin.append ?_
      rcases exception_or_ends remaining with ⟨after, rfl⟩ | ends
      · rw [licensed] at fails
        refine RaisedWithin.cons ?_
        cases last : read limit depth .primary (index + license.length + 1) after with
        | error other =>
            rw [last, excepted] at fails
            cases fails
            exact primaryRaises after (by simp; omega) last
        | ok exception =>
            obtain ⟨exceptionTree, next, rest⟩ := exception
            obtain ⟨exception, rfl, rfl, -⟩ := taken_of_read last
            rw [last] at fails
            rcases exception_or_ends rest with ⟨after, rfl⟩ | ends
            · rw [excepted] at fails
              cases fails
              exact ⟨_, rfl, by simp, by simp, by simp⟩
            · simp [excepted_of_ends ends] at fails
      · simp [licensed_of_ends ends] at fails

private theorem raisedWithin_chained (chains : Chains level operand operator) {bound : Nat}
    (operandRaises : ∀ other, other.length ≤ bound → ∀ {index failure},
      read limit depth operand index other = .error failure →
        RaisedWithin limit index other failure)
    (shorter : input.length ≤ bound) (ends : operand.Ends input)
    (fails : chained limit depth level left index input = .error failure) :
    RaisedWithin limit index input failure := by
  induction lengthEq : input.length using Nat.strongRecOn generalizing left index input with
  | ind length ih =>
    rcases chains.goesOn_or_ends ends with ⟨after, rfl⟩ | ends
    · simp only [List.length_cons] at shorter lengthEq
      rw [chained_link chains] at fails
      refine RaisedWithin.cons ?_
      cases next : read limit depth operand (index + 1) after with
      | error other =>
          rw [next, linked] at fails
          cases fails
          exact operandRaises after (by omega) next
      | ok right =>
          obtain ⟨rightTree, middle, remaining⟩ := right
          have remainingShorter := length_lt_of_read next
          obtain ⟨right, rfl, rfl, -, -, ends⟩ := taken_of_read next
          rw [next, linked] at fails
          exact RaisedWithin.append (ih remaining.length (by omega) (by omega) ends fails rfl)
    · simp [chained_of_ends ends] at fails

/-- A reading that fails does so at a token of its input, or at the end. -/
theorem raisedWithin_of_read (fails : read limit depth level index input = .error failure) :
    RaisedWithin limit index input failure := by
  induction level, input using level_induction generalizing depth index failure with
  | primary input ih => exact raisedWithin_primary (fun inner shorter => ih inner shorter) fails
  | withExpr input ih => exact raisedWithin_withExpr (fun other shorter => ih other shorter) fails
  | @chain level operand operator chains input ih =>
      rw [read_chain chains] at fails
      cases first : read limit depth operand index input with
      | error other =>
          rw [first, begun] at fails
          cases fails
          exact ih input (Nat.le_refl _) first
      | ok left =>
          obtain ⟨leftTree, middle, remaining⟩ := left
          obtain ⟨left, rfl, rfl, -, -, ends⟩ := taken_of_read first
          rw [first, begun] at fails
          exact RaisedWithin.append (raisedWithin_chained chains
            (fun other shorter => ih other shorter) (by simp) ends fails)

/-- What is raised is a syntax error, unless it has to show a limit that cannot be written. -/
theorem RaisedWithin.cases (raised : RaisedWithin limit index input failure) :
    (∃ error, failure = .syntaxError error ∧ IsWithin limit index input error) ∨
      failure = .integerTooLong ∧ Text.hasWritableLength limit = false := by
  obtain ⟨error, rfl, within⟩ := raised
  cases writable : error.fault.isWritable with
  | true => exact .inl ⟨error, ParseFailure.raised_eq_syntaxError_iff.mpr ⟨rfl, writable⟩, within⟩
  | false =>
      obtain ⟨other, isFault, unwritable⟩ := Fault.eq_nestedTooDeep_of_isWritable writable
      obtain rfl := within.limit_eq other isFault
      exact .inr ⟨ParseFailure.raised_eq_integerTooLong_iff.mpr writable, unwritable⟩

/-! ## Whole lists of tokens -/

/-- What remains to be said of a list once its or-expression is read. -/
def finished : Reading → Except ParseFailure Tree
  | .error failure => .error failure
  | .ok (tree, _, []) => .ok tree
  | .ok (_, next, .closeParen :: _) => .error (.raised ⟨next, .unmatchedParen⟩)
  | .ok (_, next, found :: _) => .error (.raised ⟨next, .afterExpression found⟩)

theorem parse_eq_finished (maxDepth : Int) (tokens : List Token) :
    parse maxDepth tokens = finished (read (min maxDepth depthCap) 0 .orExpr 0 tokens) := by
  simp only [parse, read]
  cases orExpr (min maxDepth depthCap) 0 0 tokens with
  | error failure => rfl
  | ok parsed =>
      obtain ⟨tree, next, remaining, shorter⟩ := parsed
      rcases remaining with _ | ⟨_ | _ | _ | _, after⟩ <;> rfl

theorem finished_eq_ok_iff {result : Reading} :
    finished result = .ok tree ↔ ∃ next, result = .ok (tree, next, []) := by
  rcases result with failure | ⟨other, next, _ | ⟨_ | _ | _ | _, after⟩⟩ <;> simp [finished]

theorem parse_eq_ok_iff {maxDepth : Int} :
    parse maxDepth tokens = .ok tree ↔
      Derives .orExpr tokens tree ∧ Fits (min maxDepth depthCap) 0 tokens := by
  rw [parse_eq_finished, finished_eq_ok_iff]
  constructor
  · rintro ⟨next, reads⟩
    obtain ⟨taken, rfl, -, derives, fits, -⟩ := taken_of_read reads
    rw [List.append_nil]
    exact ⟨derives, fits⟩
  · rintro ⟨derives, fits⟩
    have reads : read _ 0 .orExpr 0 (tokens ++ []) = _ := derives.read_eq fits ends_nil
    rw [List.append_nil] at reads
    exact ⟨_, reads⟩

theorem exists_syntaxError_or_of_parse {maxDepth : Int}
    (fails : parse maxDepth tokens = .error failure) :
    (∃ error, failure = .syntaxError error) ∨
      failure = .integerTooLong ∧ Text.hasWritableLength (min maxDepth depthCap) = false := by
  rw [parse_eq_finished] at fails
  rcases reads : read (min maxDepth depthCap) 0 .orExpr 0 tokens with other | ⟨tree, next, rest⟩
  · rw [reads, finished] at fails
    cases fails
    exact (raisedWithin_of_read reads).cases.imp (fun ⟨error, same, _⟩ => ⟨error, same⟩) id
  · rw [reads] at fails
    rcases rest with _ | ⟨_ | _ | _ | _, after⟩
    case nil => cases fails
    all_goals
      cases fails
      exact .inl ⟨_, ParseFailure.raised_eq_syntaxError_iff.mpr ⟨rfl, rfl⟩⟩

/-- The parser accepts exactly the lists that the grammar derives and that are nested within
the limit, with the trees of their derivations, and finds a syntax error in all others; only
a limit that is too far below zero to be written may take the place of the error.  A list has
at most one tree, and the limit decides nothing but acceptance. -/
theorem parse_accepts_iff_derives (tokens : List Token) :
    (∀ maxDepth tree, parse maxDepth tokens = .ok tree ↔
      Derives .orExpr tokens tree ∧ NestedWithin (min maxDepth depthCap) tokens) ∧
    (∀ maxDepth, (∃ failure, parse maxDepth tokens = .error failure) ↔
      ¬ ∃ tree, Derives .orExpr tokens tree ∧ NestedWithin (min maxDepth depthCap) tokens) ∧
    (∀ maxDepth failure, parse maxDepth tokens = .error failure →
      (∃ error, failure = .syntaxError error) ∨
        failure = .integerTooLong ∧ Text.hasWritableLength (min maxDepth depthCap) = false) ∧
    (∀ first second, Derives .orExpr tokens first → Derives .orExpr tokens second →
      first = second) ∧
    ∀ maxDepth otherDepth first second, parse maxDepth tokens = .ok first →
      parse otherDepth tokens = .ok second → first = second := by
  have accepts (maxDepth : Int) (tree : Tree) : parse maxDepth tokens = .ok tree ↔
      Derives .orExpr tokens tree ∧ NestedWithin (min maxDepth depthCap) tokens := by
    rw [nestedWithin_iff_fits, parse_eq_ok_iff]
  refine ⟨accepts, fun maxDepth => ?_, fun maxDepth failure => exists_syntaxError_or_of_parse,
    fun first second => Derives.tree_unique, ?_⟩
  · simp only [← accepts]
    cases parse maxDepth tokens <;> simp
  · intro maxDepth otherDepth first second firstParses secondParses
    exact ((accepts _ _).mp firstParses).1.tree_unique ((accepts _ _).mp secondParses).1

end Grammar

/-- A text whose tokens derive a tree within the limit is parsed as this tree. -/
theorem parse_eq_valid_of_derives {options : Options} {text : String} {tokens : List Token}
    {tree : Tree} (cut : Token.tokenize options.anyCase text = tokens)
    (derives : Grammar.Derives .orExpr tokens tree)
    (fits : Grammar.Fits (min options.maxDepth depthCap) 0 tokens) :
    parse options text = .ok (.valid tree) := by
  rw [parse_eq_valid_iff, parse?, cut]
  exact Grammar.parse_eq_ok_iff.mpr ⟨derives, fits⟩

/-- Where the limit can be written, every text stands for an expression. -/
theorem exists_parse_eq_ok {options : Options}
    (writable : Text.hasWritableLength (min options.maxDepth depthCap) = true) (text : String) :
    ∃ expression, parse options text = .ok expression := by
  cases parsed : parse options text with
  | ok expression => exact ⟨expression, rfl⟩
  | error failure =>
      rcases Grammar.exists_syntaxError_or_of_parse (parse_eq_error_iff.mp parsed) with
        ⟨error, impossible⟩ | ⟨-, unwritable⟩
      · cases impossible
      · rw [writable] at unwritable
        cases unwritable

end LicenseExpr
