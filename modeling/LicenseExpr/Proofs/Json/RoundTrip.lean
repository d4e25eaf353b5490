import LicenseExpr.Proofs.Json.Strings

/-!
# JSON read back

A value without numbers is read as it was written, on one line or indented,
when the characters beyond ASCII stand as they are.  Its text is cut into the
lexemes of the value, whatever blanks the style puts between them, and the
machine takes the lexemes of a value in one go: it ends up where a value that
is complete leads it.
-/

namespace LicenseExpr.Json

open LicenseExpr.Text

variable {style : Style} {char : Char} {value : Json} {stack : List Frame}
  {blanks rest : List Char} {more : List Token}

/-- A value in which no number occurs. -/
inductive NumberFree : Json → Prop where
  | null : NumberFree .null
  | boolean (value : Bool) : NumberFree (.boolean value)
  | text (value : String) : NumberFree (.text value)
  | array {items : List Json} (free : ∀ item ∈ items, NumberFree item) : NumberFree (.array items)
  | object {members : List (String × Json)} (free : ∀ member ∈ members, NumberFree member.2) :
      NumberFree (.object members)

mutual

/-- The tokens that a value is written as. -/
def lexemes : Json → List Token
  | .text value => [.text value]
  | .array [] => [.openBracket, .closeBracket]
  | .array (item :: items) =>
      .openBracket :: lexemes item ++ itemLexemes items ++ [.closeBracket]
  | .object [] => [.openBrace, .closeBrace]
  | .object ((name, value) :: members) =>
      .openBrace :: .text name :: .colon :: lexemes value ++ memberLexemes members ++
        [.closeBrace]
  | value => [.scalar value]

def itemLexemes : List Json → List Token
  | [] => []
  | item :: items => .comma :: lexemes item ++ itemLexemes items

def memberLexemes : List (String × Json) → List Token
  | [] => []
  | (name, value) :: members =>
      .comma :: .text name :: .colon :: lexemes value ++ memberLexemes members

end

/-! ## Cutting a text into tokens -/

theorem tokens_space (space : isSpace char = true) (rest : List Char) :
    tokens (char :: rest) = tokens rest := by
  rw [tokens, if_pos space]

theorem tokens_spaces_append (spaces : ∀ char ∈ blanks, isSpace char = true) (rest : List Char) :
    tokens (blanks ++ rest) = tokens rest := by
  induction blanks with
  | nil => rfl
  | cons char blanks ih =>
      obtain ⟨space, laterSpaces⟩ := List.forall_mem_cons.mp spaces
      rw [List.cons_append, tokens_space space, ih laterSpaces]

theorem isSpace_of_mem_lineBreak {depth : Nat} :
    ∀ char ∈ lineBreak style depth, isSpace char = true := by
  intro char member
  unfold lineBreak at member
  split at member
  · cases member
  · rcases List.mem_cons.mp member with rfl | blank
    · rfl
    · obtain rfl := List.eq_of_mem_replicate blank
      rfl

theorem tokens_lineBreak_append (style : Style) (depth : Nat) (rest : List Char) :
    tokens (lineBreak style depth ++ rest) = tokens rest :=
  tokens_spaces_append isSpace_of_mem_lineBreak rest

theorem not_isSpace_of_mark {mark : Token} (marks : mark? char = some mark) :
    isSpace char = false := by
  unfold mark? at marks
  split_ifs at marks <;> simp_all [isSpace]

theorem tokens_mark {mark : Token} (marks : mark? char = some mark) (rest : List Char) :
    tokens (char :: rest) = (tokens rest).map (mark :: ·) := by
  rw [tokens, if_neg (by simp [not_isSpace_of_mark marks]), marks]

theorem tokens_separator_append (style : Style) (depth : Nat) (rest : List Char) :
    tokens (separator style depth ++ rest) = (tokens rest).map (.comma :: ·) := by
  unfold separator
  split
  · rw [List.cons_append, tokens_mark (by rfl), List.cons_append, tokens_space (by rfl),
      List.nil_append]
  · rw [List.cons_append, tokens_mark (by rfl), tokens_lineBreak_append]

theorem tokens_stringText_append (verbatim : style.asciiOnly = false) (text : String)
    (rest : List Char) :
    tokens (stringText style text ++ rest) = (tokens rest).map (.text text :: ·) := by
  have opened : stringText style text ++ rest =
      '"' :: (text.toList.flatMap (stringChar style) ++ '"' :: rest) := by
    simp [stringText]
  have shorter : rest.length ≤
      (text.toList.flatMap (stringChar style) ++ '"' :: rest).length := by
    rw [List.length_append, List.length_cons]
    omega
  rw [opened, tokens, if_neg (by decide)]
  simp only [show mark? '"' = none from rfl, if_true, stringBody_append verbatim,
    Option.bind_eq_bind, Option.bind_some, shorter, String.ofList_toList]
  cases tokens rest <;> rfl

theorem tokens_colon (rest : List Char) :
    tokens (':' :: ' ' :: rest) = (tokens rest).map (.colon :: ·) := by
  rw [tokens_mark (by rfl), tokens_space (by rfl)]

/-- Nothing, or a text that does not go on with a word. -/
def EndsWord (rest : List Char) : Prop :=
  ∀ char ∈ rest.head?, isWordChar char = false

theorem not_isWordChar_of_isSpace (space : isSpace char = true) : isWordChar char = false := by
  simp only [isSpace, Bool.or_eq_true, beq_iff_eq] at space
  rcases space with ((rfl | rfl) | rfl) | rfl <;> rfl

theorem EndsWord.takeWhile_eq (ends : EndsWord rest) : rest.takeWhile isWordChar = [] := by
  cases rest with
  | nil => rfl
  | cons char rest => simp [ends char rfl]

theorem EndsWord.dropWhile_eq (ends : EndsWord rest) : rest.dropWhile isWordChar = rest := by
  cases rest with
  | nil => rfl
  | cons char rest => simp [ends char rfl]

/-- A letter is no blank, no mark and no quote. -/
theorem letter_cases (letter : char.isAlpha = true) :
    isSpace char = false ∧ mark? char = none ∧ char ≠ '"' ∧ isWordChar char = true := by
  have other (mark : Char) (noLetter : mark.isAlpha = false) : char ≠ mark := by
    rintro rfl
    rw [letter] at noLetter
    cases noLetter
  refine ⟨?_, ?_, other '"' (by decide), by simp [isWordChar, Char.isAlphanum, letter]⟩
  · simp [isSpace, other ' ' (by decide), other '\n' (by decide), other '\r' (by decide),
      other '\t' (by decide)]
  · simp [mark?, other '[' (by decide), other ']' (by decide), other '\x7b' (by decide),
      other '\x7d' (by decide), other ',' (by decide), other ':' (by decide)]

/-- A word of letters that stands for a value is one token. -/
theorem tokens_word_append {word : List Char} (letters : ∀ char ∈ word, char.isAlpha = true)
    (reads : scalar? word = some value) (ends : EndsWord rest) :
    tokens (word ++ rest) = (tokens rest).map (.scalar value :: ·) := by
  cases word with
  | nil => cases reads
  | cons char word =>
      obtain ⟨letter, laterLetters⟩ := List.forall_mem_cons.mp letters
      obtain ⟨notSpace, noMark, notQuote, isWord⟩ := letter_cases letter
      have laterWord : ∀ char ∈ word, isWordChar char = true := fun char member =>
        (letter_cases (laterLetters char member)).2.2.2
      rw [List.cons_append, tokens, if_neg (by simp [notSpace])]
      simp only [noMark, notQuote, isWord, if_false, if_true,
        List.takeWhile_append_of_pos laterWord, List.dropWhile_append_of_pos laterWord,
        ends.takeWhile_eq, ends.dropWhile_eq, List.append_nil, reads, Option.bind_eq_bind,
        Option.bind_some]
      cases tokens rest <;> rfl

theorem endsWord_cons (ends : isWordChar char = false) : EndsWord (char :: rest) := by
  rintro _ ⟨⟩
  exact ends

theorem endsWord_separator_append {depth : Nat} : EndsWord (separator style depth ++ rest) := by
  unfold separator
  split <;> exact endsWord_cons (by decide)

theorem endsWord_lineBreak_append {depth : Nat} (ends : EndsWord rest) :
    EndsWord (lineBreak style depth ++ rest) := by
  unfold lineBreak
  split
  · exact ends
  · exact endsWord_cons (by decide)

theorem endsWord_writeItems_append {depth : Nat} {items : List Json} (ends : EndsWord rest) :
    EndsWord (writeItems style depth items ++ rest) := by
  cases items with
  | nil => exact ends
  | cons item items =>
      simp only [writeItems, List.append_assoc]
      exact endsWord_separator_append

theorem endsWord_writeMembers_append {depth : Nat} {members : List (String × Json)}
    (ends : EndsWord rest) : EndsWord (writeMembers style depth members ++ rest) := by
  cases members with
  | nil => exact ends
  | cons member members =>
      simp only [writeMembers, List.append_assoc]
      exact endsWord_separator_append

/-- The text of a value is cut into the lexemes of the value, wherever it stands. -/
def IsCut (style : Style) (value : Json) : Prop :=
  ∀ depth rest, EndsWord rest →
    tokens (write style depth value ++ rest) = (tokens rest).map (lexemes value ++ ·)

theorem isCut_of_word (word : List Char) (letters : word.all Char.isAlpha = true)
    (reads : scalar? word = some value) (written : ∀ depth, write style depth value = word)
    (lexeme : lexemes value = [.scalar value]) : IsCut style value := by
  intro depth rest ends
  rw [written, lexeme, tokens_word_append (List.all_eq_true.mp letters) reads ends]
  rfl

theorem tokens_writeItems_append {depth : Nat} {items : List Json}
    (cut : ∀ item ∈ items, IsCut style item) (ends : EndsWord rest) :
    tokens (writeItems style depth items ++ rest) = (tokens rest).map (itemLexemes items ++ ·) := by
  induction items with
  | nil => simp [writeItems, itemLexemes]
  | cons item items ih =>
      obtain ⟨itemCut, laterCut⟩ := List.forall_mem_cons.mp cut
      simp only [writeItems, List.append_assoc]
      rw [tokens_separator_append, itemCut _ _ (endsWord_writeItems_append ends), ih laterCut]
      simp [itemLexemes, Function.comp_def]

theorem tokens_writeMembers_append (verbatim : style.asciiOnly = false) {depth : Nat}
    {members : List (String × Json)} (cut : ∀ member ∈ members, IsCut style member.2)
    (ends : EndsWord rest) :
    tokens (writeMembers style depth members ++ rest) =
      (tokens rest).map (memberLexemes members ++ ·) := by
  induction members with
  | nil => simp [writeMembers, memberLexemes]
  | cons member members ih =>
      obtain ⟨name, value⟩ := member
      obtain ⟨valueCut, laterCut⟩ := List.forall_mem_cons.mp cut
      simp only [writeMembers, List.append_assoc, List.cons_append, List.nil_append]
      rw [tokens_separator_append, tokens_stringText_append verbatim, tokens_colon,
        valueCut _ _ (endsWord_writeMembers_append ends), ih laterCut]
      simp [memberLexemes, Function.comp_def]

theorem isCut_of_numberFree (verbatim : style.asciiOnly = false) (free : NumberFree value) :
    IsCut style value := by
  induction free with
  | null => exact isCut_of_word "null".toList (by decide) rfl (fun _ => rfl) rfl
  | boolean value =>
      cases value with
      | false => exact isCut_of_word "false".toList (by decide) rfl (fun _ => rfl) rfl
      | true => exact isCut_of_word "true".toList (by decide) rfl (fun _ => rfl) rfl
  | text value => exact fun _ rest _ => tokens_stringText_append verbatim value rest
  | @array items free cut =>
      intro depth rest ends
      cases items with
      | nil =>
          simp only [write, List.cons_append, List.nil_append]
          rw [tokens_mark (by rfl), tokens_mark (by rfl)]
          simp [lexemes, Function.comp_def]
      | cons item items =>
          obtain ⟨itemCut, laterCut⟩ := List.forall_mem_cons.mp cut
          have endsItems : EndsWord (lineBreak style depth ++ (']' :: rest)) :=
            endsWord_lineBreak_append (endsWord_cons (by decide))
          simp only [write, List.cons_append, List.append_assoc, List.nil_append]
          rw [tokens_mark (by rfl), tokens_lineBreak_append,
            itemCut _ _ (endsWord_writeItems_append endsItems),
            tokens_writeItems_append laterCut endsItems, tokens_lineBreak_append,
            tokens_mark (by rfl)]
          simp [lexemes, Function.comp_def]
  | @object members free cut =>
      intro depth rest ends
      cases members with
      | nil =>
          simp only [write, List.cons_append, List.nil_append]
          rw [tokens_mark (by rfl), tokens_mark (by rfl)]
          simp [lexemes, Function.comp_def]
      | cons member members =>
          obtain ⟨name, value⟩ := member
          obtain ⟨valueCut, laterCut⟩ := List.forall_mem_cons.mp cut
          have endsMembers : EndsWord (lineBreak style depth ++ ('\x7d' :: rest)) :=
            endsWord_lineBreak_append (endsWord_cons (by decide))
          simp only [write, List.cons_append, List.append_assoc, List.nil_append]
          rw [tokens_mark (by rfl), tokens_lineBreak_append, tokens_stringText_append verbatim,
            tokens_colon, valueCut _ _ (endsWord_writeMembers_append endsMembers),
            tokens_writeMembers_append verbatim laterCut endsMembers, tokens_lineBreak_append,
            tokens_mark (by rfl)]
          simp [lexemes, Function.comp_def]

/-! ## Taking the lexemes of a value -/

/-- From wherever a value is due, the lexemes of this one lead to where it is complete. -/
def IsTaken (value : Json) : Prop :=
  ∀ stack more, (lexemes value ++ more).foldlM step (.value stack) =
    (close value stack).bind fun state => more.foldlM step state

theorem exists_lexemes_eq_cons (value : Json) :
    ∃ token tokens, lexemes value = token :: tokens ∧ token ≠ .closeBracket := by
  rcases value with _ | _ | _ | _ | _ | (_ | ⟨item, items⟩) | (_ | ⟨⟨name, value⟩, members⟩) <;>
    exact ⟨_, _, rfl, by simp⟩

/-- The first item of an array is taken like any other value. -/
theorem foldlM_step_firstItem (value : Json) :
    (lexemes value ++ more).foldlM step (.firstItem stack) =
      (lexemes value ++ more).foldlM step (.value stack) := by
  obtain ⟨token, tokens, lexemesEq, notClose⟩ := exists_lexemes_eq_cons value
  have sameStep : step (.firstItem stack) token = step (.value stack) token := by
    unfold step
    split <;> simp_all
  rw [lexemesEq, List.cons_append, List.foldlM_cons, List.foldlM_cons, sameStep]

theorem foldlM_step_items {items found : List Json} (taken : ∀ item ∈ items, IsTaken item) :
    (itemLexemes items ++ .closeBracket :: more).foldlM step (.after (.array found :: stack)) =
      (close (.array (found.reverse ++ items)) stack).bind fun state => more.foldlM step state := by
  induction items generalizing found with
  | nil =>
      rw [itemLexemes, List.nil_append, List.append_nil, List.foldlM_cons]
      rfl
  | cons item items ih =>
      obtain ⟨itemTaken, laterTaken⟩ := List.forall_mem_cons.mp taken
      simp only [itemLexemes, List.cons_append, List.append_assoc]
      rw [List.foldlM_cons, step, Option.bind_eq_bind, Option.bind_some, itemTaken, close,
        Option.bind_some, ih laterTaken, List.reverse_cons, List.append_assoc,
        List.singleton_append]

theorem foldlM_step_members {members found : List (String × Json)}
    (taken : ∀ member ∈ members, IsTaken member.2) :
    (memberLexemes members ++ .closeBrace :: more).foldlM step
        (.after (.object found :: stack)) =
      (close (.object (found.reverse ++ members)) stack).bind fun state =>
        more.foldlM step state := by
  induction members generalizing found with
  | nil =>
      rw [memberLexemes, List.nil_append, List.append_nil, List.foldlM_cons]
      rfl
  | cons member members ih =>
      obtain ⟨name, value⟩ := member
      obtain ⟨valueTaken, laterTaken⟩ := List.forall_mem_cons.mp taken
      simp only [memberLexemes, List.cons_append, List.append_assoc]
      rw [List.foldlM_cons, step, Option.bind_eq_bind, Option.bind_some, List.foldlM_cons, step,
        Option.bind_eq_bind, Option.bind_some, List.foldlM_cons, step, Option.bind_eq_bind,
        Option.bind_some, valueTaken, close, Option.bind_some, ih laterTaken,
        List.reverse_cons, List.append_assoc, List.singleton_append]

theorem isTaken_of_numberFree (free : NumberFree value) : IsTaken value := by
  induction free with
  | null | boolean value | text value => exact fun stack more => List.foldlM_cons
  | @array items free taken =>
      intro stack more
      cases items with
      | nil => 
          rw [lexemes, List.cons_append, List.foldlM_cons]
          exact List.foldlM_cons
      | cons item items =>
          obtain ⟨itemTaken, laterTaken⟩ := List.forall_mem_cons.mp taken
          simp only [lexemes, List.cons_append, List.append_assoc, List.nil_append]
          rw [List.foldlM_cons, step, begin, Option.bind_eq_bind, Option.bind_some,
            foldlM_step_firstItem, itemTaken, close, Option.bind_some, foldlM_step_items laterTaken,
            List.reverse_singleton, List.singleton_append]
  | @object members free taken =>
      intro stack more
      cases members with
      | nil =>
          rw [lexemes, List.cons_append, List.foldlM_cons]
          exact List.foldlM_cons
      | cons member members =>
          obtain ⟨name, value⟩ := member
          obtain ⟨valueTaken, laterTaken⟩ := List.forall_mem_cons.mp taken
          simp only [lexemes, List.cons_append, List.append_assoc, List.nil_append]
          rw [List.foldlM_cons, step, begin, Option.bind_eq_bind, Option.bind_some,
            List.foldlM_cons, step, Option.bind_eq_bind, Option.bind_some, List.foldlM_cons, step,
            Option.bind_eq_bind, Option.bind_some, valueTaken, close, Option.bind_some,
            foldlM_step_members laterTaken, List.reverse_singleton, List.singleton_append]

/-- A value without numbers is read back from its text, with any blanks behind it. -/
theorem read?_write_append (verbatim : style.asciiOnly = false) (free : NumberFree value)
    {depth : Nat} (spaces : ∀ char ∈ blanks, isSpace char = true) :
    read? (String.ofList (write style depth value ++ blanks)) = some value := by
  have ends : EndsWord blanks := fun char first =>
    not_isWordChar_of_isSpace (spaces char (List.mem_of_head? first))
  have noMore : tokens blanks = some [] := by
    rw [← List.append_nil blanks, tokens_spaces_append spaces, tokens]
  have taken := isTaken_of_numberFree free [] []
  rw [List.append_nil] at taken
  rw [read?, String.toList_ofList, isCut_of_numberFree verbatim free depth blanks ends, noMore]
  simp only [Option.map_some, List.append_nil, Option.bind_eq_bind, Option.bind_some, taken]
  rfl

/-! ## No control characters -/

theorem isStill_lineBreak (depth : Nat) : IsStill (lineBreak style depth) := by
  intro char member
  unfold lineBreak at member
  split at member
  · cases member
  · rcases List.mem_cons.mp member with rfl | blank
    · rfl
    · obtain rfl := List.eq_of_mem_replicate blank
      rfl

theorem isStill_separator (depth : Nat) : IsStill (separator style depth) := by
  unfold separator
  split
  · decide
  · exact isStill_cons.mpr ⟨rfl, isStill_lineBreak depth⟩

theorem isStill_writeItems {items : List Json}
    (still : ∀ item ∈ items, ∀ depth, IsStill (write style depth item)) (depth : Nat) :
    IsStill (writeItems style depth items) := by
  induction items with
  | nil => simp [writeItems]
  | cons item items ih =>
      obtain ⟨itemStill, laterStill⟩ := List.forall_mem_cons.mp still
      simp [writeItems, isStill_separator, itemStill, ih laterStill]

theorem isStill_writeMembers {members : List (String × Json)}
    (still : ∀ member ∈ members, ∀ depth, IsStill (write style depth member.2)) (depth : Nat) :
    IsStill (writeMembers style depth members) := by
  induction members with
  | nil => simp [writeMembers]
  | cons member members ih =>
      obtain ⟨name, value⟩ := member
      obtain ⟨valueStill, laterStill⟩ := List.forall_mem_cons.mp still
      have marks : movesCursor ':' = false ∧ movesCursor ' ' = false := by decide
      simp [writeMembers, isStill_separator, isStill_stringText, valueStill, ih laterStill, marks]

theorem isStill_write (free : NumberFree value) (depth : Nat) :
    IsStill (write style depth value) := by
  induction free generalizing depth with
  | null => exact (by decide : IsStill "null".toList)
  | boolean value =>
      cases value with
      | false => exact (by decide : IsStill "false".toList)
      | true => exact (by decide : IsStill "true".toList)
  | text value => exact isStill_stringText value
  | @array items free still =>
      cases items with
      | nil => exact (by decide : IsStill ['[', ']'])
      | cons item items =>
          obtain ⟨itemStill, laterStill⟩ := List.forall_mem_cons.mp still
          have marks : movesCursor '[' = false ∧ movesCursor ']' = false := by decide
          simp [write, isStill_lineBreak, itemStill, isStill_writeItems laterStill, marks]
  | @object members free still =>
      cases members with
      | nil => exact (by decide : IsStill ['\x7b', '\x7d'])
      | cons member members =>
          obtain ⟨name, value⟩ := member
          obtain ⟨valueStill, laterStill⟩ := List.forall_mem_cons.mp still
          have marks : movesCursor '\x7b' = false ∧ movesCursor ':' = false ∧
              movesCursor ' ' = false ∧ movesCursor '\x7d' = false := by decide
          simp [write, isStill_lineBreak, isStill_stringText, valueStill,
            isStill_writeMembers laterStill, marks]

end LicenseExpr.Json
