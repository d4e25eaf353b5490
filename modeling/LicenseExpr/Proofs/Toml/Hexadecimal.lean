import Mathlib.Data.List.TakeWhile
import LicenseExpr.Proofs.Text.Digits
import LicenseExpr.Settings.Document

/-!
# Hexadecimal integers in settings files

An integer in hexadecimal digits is read at any length.  So every natural number
can be the depth in a settings file, also one that has too many decimal digits to
be shown.
-/

namespace LicenseExpr

namespace Text

/-! ## ASCII characters -/

def IsAscii (text : List Char) : Prop :=
  ∀ char ∈ text, char.toNat < 0x80

/-- The bytes of a text of ASCII characters. -/
def asciiBytes (text : List Char) : List UInt8 :=
  text.map fun char => UInt8.ofNat char.toNat

theorem decodeFrom_asciiBytes {text : List Char} (ascii : IsAscii text) (position : Nat) :
    decodeFrom position none (asciiBytes text) = .ok text := by
  induction text generalizing position with
  | nil => rfl
  | cons char text ih =>
      obtain ⟨small, others⟩ := List.forall_mem_cons.mp ascii
      have byte : (UInt8.ofNat char.toNat).toNat = char.toNat := by
        simp only [UInt8.toNat_ofNat']
        omega
      rw [asciiBytes, List.map_cons, ← asciiBytes, decodeFrom]
      simp only [byte, if_pos small, ih others, Char.ofNat_toNat]
      rfl

theorem decode_asciiBytes {text : List Char} (ascii : IsAscii text) :
    decode (asciiBytes text) = .ok text :=
  decodeFrom_asciiBytes ascii 0

theorem unifyLineEnds_eq_self {text : List Char} (noReturn : '\r' ∉ text) :
    unifyLineEnds text = text := by
  induction text with
  | nil => rfl
  | cons char text ih =>
      rw [List.mem_cons, not_or] at noReturn
      obtain ⟨notReturn, others⟩ := noReturn
      rw [unifyLineEnds, if_neg (Ne.symm notReturn), ih others]
      rintro rest rfl
      exact absurd rfl notReturn

end Text

namespace Toml

open Text

theorem withoutSeparators_eq_self {base : Nat} {before : Char} {text : List Char}
    (noMark : '_' ∉ text) : withoutSeparators base before text = text := by
  induction text generalizing before with
  | nil => rw [withoutSeparators]
  | cons char text ih =>
      rw [List.mem_cons, not_or] at noMark
      obtain ⟨notMark, others⟩ := noMark
      rw [withoutSeparators, ih others]
      rintro next rest mark
      exact absurd mark.symm notMark

theorem numerals_hexDigits (width value : Nat) :
    numerals 16 (hexDigits width value) = hexDigits width value := by
  have noMark : ∀ char ∈ hexDigits width value, char ≠ '_' :=
    forall_mem_hexDigits width value (by decide)
  have noBlank : ∀ char ∈ (hexDigits width value).reverse, ¬isWhitespace char = true := by
    intro char member
    rw [List.mem_reverse] at member
    revert char
    exact forall_mem_hexDigits width value (by decide)
  have ascii : ∀ char ∈ hexDigits width value, toAsciiDigit char = char :=
    forall_mem_hexDigits width value (by decide)
  have kept : (hexDigits width value).reverse.dropWhile isWhitespace =
      (hexDigits width value).reverse :=
    List.dropWhile_eq_self_iff.mpr fun nonempty => noBlank _ (List.getElem_mem nonempty)
  rw [numerals, withoutSeparators_eq_self fun mark => noMark _ mark rfl, kept, List.reverse_reverse,
    List.map_congr_left ascii, List.map_id']

theorem digitsOfBase?_sixteen {text : List Char} (nonempty : text ≠ []) :
    digitsOfBase? 16 text = hexNumber? text := by
  rw [digitsOfBase?, if_neg nonempty, hexNumber?]
  congr 1
  funext number char
  cases found : hexValue? char with
  | none => rfl
  | some value => simp [hexValue?_lt found]

theorem number?_hexDigits {width value : Nat} (positive : 0 < width) (fits : value < 16 ^ width) :
    number? ('0' :: 'x' :: hexDigits width value) = some (.integer value) := by
  have nonempty : hexDigits width value ≠ [] := by
    rw [← List.length_pos_iff, length_hexDigits]
    exact positive
  rw [number?, numerals_hexDigits, digitsOfBase?_sixteen nonempty, hexNumber?_hexDigits fits]
  rfl

theorem fixed?_zero_x (width : Nat) (rest : List Char) :
    fixed? (width + 2) ('0' :: 'x' :: rest) = none := by
  have noDigits : digitsOfBase? 10 ('0' :: 'x' :: rest.take width) = none := rfl
  rw [fixed?, List.take_succ_cons, List.take_succ_cons, noDigits]
  split <;> rfl

theorem moment?_zero_x (rest : List Char) : moment? ('0' :: 'x' :: rest) = none := by
  have noDate : date? ('0' :: 'x' :: rest) = none := by
    rw [date?, fixed?_zero_x 2]
    rfl
  have noTime : time? ('0' :: 'x' :: rest) = none := by
    rw [time?, fixed?_zero_x 0]
    rfl
  rw [moment?, noDate, noTime]

/-- A hexadecimal integer at the end of a text is read whole. -/
theorem word?_hexDigits {width value : Nat} (positive : 0 < width) (fits : value < 16 ^ width) :
    word? ('0' :: 'x' :: hexDigits width value) = some (.integer value, []) := by
  have solid : ∀ char ∈ '0' :: 'x' :: hexDigits width value, (!endsWord char) = true :=
    List.forall_mem_cons.mpr ⟨by decide, List.forall_mem_cons.mpr ⟨by decide,
      forall_mem_hexDigits width value (by decide)⟩⟩
  have whole : ('0' :: 'x' :: hexDigits width value).takeWhile (!endsWord ·) =
      '0' :: 'x' :: hexDigits width value := List.takeWhile_eq_self_iff.mpr solid
  have done : ('0' :: 'x' :: hexDigits width value).dropWhile (!endsWord ·) = [] :=
    List.dropWhile_eq_nil_iff.mpr solid
  rw [word?, whole, done, moment?_zero_x, number?_hexDigits positive fits]
  rfl

theorem scalar?_hexDigits {width value : Nat} (positive : 0 < width) (fits : value < 16 ^ width) :
    scalar? ('0' :: 'x' :: hexDigits width value) = some (.integer value, []) := by
  have noString : string? ('0' :: 'x' :: hexDigits width value) = none := rfl
  have notTrue : literal? "true" ('0' :: 'x' :: hexDigits width value) = none := rfl
  have notFalse : literal? "false" ('0' :: 'x' :: hexDigits width value) = none := rfl
  rw [scalar?, noString, notTrue, notFalse, word?_hexDigits positive fits]

/-! ## Documents -/

theorem value_hexDigits {width number : Nat} (positive : 0 < width)
    (fits : number < 16 ^ width) :
    value nestingLimit ('0' :: 'x' :: hexDigits width number) =
      .ok (.integer number, ⟨[], Nat.zero_lt_succ _⟩) := by
  rw [value]
  · simp only [scalar?_hexDigits positive fits, remainder?, List.length_nil, List.length_cons,
      Nat.zero_lt_succ, dif_pos]
    rfl
  all_goals
    rintro room rest - mark
    cases mark

theorem keyParts?_max_depth (rest : List Char) :
    keyParts? ("max_depth = ".toList ++ rest) = some (["max_depth"], '=' :: ' ' :: rest) := by
  have part : keyPart? (skipSpaces ("max_depth = ".toList ++ rest)) =
      some ("max_depth", " = ".toList ++ rest) := rfl
  rw [keyParts?, part]
  rfl

theorem key?_parser_max_depth (rest : List Char) :
    key? ("parser.max_depth = ".toList ++ rest) =
      some (["parser", "max_depth"], '=' :: ' ' :: rest) := by
  have part : keyPart? (skipSpaces ("parser.max_depth = ".toList ++ rest)) =
      some ("parser", '.' :: ("max_depth = ".toList ++ rest)) := rfl
  have dot : skipSpaces ('.' :: ("max_depth = ".toList ++ rest)) =
      '.' :: ("max_depth = ".toList ++ rest) := rfl
  have shorter : ("max_depth = ".toList ++ rest).length <
      ("parser.max_depth = ".toList ++ rest).length := by
    simp only [List.length_append]
    exact Nat.add_lt_add_right (by decide) _
  rw [key?, keyParts?, part]
  simp only [dot, shorter, keyParts?_max_depth, if_true, Option.bind_eq_bind, Option.bind_some]
  rfl

theorem assignment_eq_ok {text afterKey afterMark : List Char} {path : List String}
    {setting : Setting} {rest : Remainder (skipSpaces afterMark)}
    (named : key? text = some (path, afterKey)) (mark : skipSpaces afterKey = '=' :: afterMark)
    (given : value nestingLimit (skipSpaces afterMark) = .ok (setting, rest)) :
    assignment text = .ok (.assignment ⟨path, setting⟩, rest.val) := by
  rw [assignment, named]
  simp only [mark, given]
  rfl

/-- A document of one line that assigns a value. -/
theorem outcome_of_assignment {first : Char} {text : List Char} {line : Line}
    (solid : skipGaps (first :: text) = .ok (first :: text)) (notHeader : first ≠ '[')
    (assigned : assignment (first :: text) = .ok (line, [])) :
    outcome (first :: text) = (Outcome.ending none).push line := by
  have done : outcome [] = .ending none := by cbv
  have ended : endOfLine [] = .ok [] := rfl
  rw [outcome, solid]
  simp only
  rw [outcomeOfLine, assigned]
  · simp [ended, done]
  · intro rest header
    exact notHeader (List.cons.inj header).1

/-- A document that sets the depth to a number, given in hexadecimal digits. -/
def hexadecimalDepth (width number : Nat) : List Char :=
  "parser.max_depth = ".toList ++ '0' :: 'x' :: hexDigits width number

theorem outcome_hexadecimalDepth {width number : Nat} (positive : 0 < width)
    (fits : number < 16 ^ width) :
    outcome (hexadecimalDepth width number) =
      ⟨[⟨["parser", "max_depth"], .integer number⟩], [], none⟩ := by
  have named : key? (hexadecimalDepth width number) =
      some (["parser", "max_depth"], '=' :: ' ' :: '0' :: 'x' :: hexDigits width number) :=
    key?_parser_max_depth _
  have assigned : assignment (hexadecimalDepth width number) =
      .ok (.assignment ⟨["parser", "max_depth"], .integer number⟩, []) :=
    assignment_eq_ok named rfl (value_hexDigits positive fits)
  obtain ⟨rest, start⟩ : ∃ rest, hexadecimalDepth width number = 'p' :: rest := ⟨_, rfl⟩
  rw [start] at assigned ⊢
  have solid : skipGaps ('p' :: rest) = .ok ('p' :: rest) := by simp [skipGaps, isSpace]
  exact outcome_of_assignment solid (by decide) assigned

theorem read_hexadecimalDepth {width number : Nat} (positive : 0 < width)
    (fits : number < 16 ^ width) :
    read (String.ofList (hexadecimalDepth width number)) =
      .ok [("parser", .table [("max_depth", .integer number)])] := by
  have drafted : Draft.assignAll {} [⟨["parser", "max_depth"], .integer number⟩] =
      .ok ⟨[("parser", .table .dotted [("max_depth", .leaf (.integer number))])], []⟩ := by
    cbv
  have settled :
      tableValue [("parser", .table .dotted [("max_depth", .leaf (.integer number))])] =
        .ok [("parser", .table [("max_depth", .integer number)])] := by
    cbv
  rw [read, String.toList_ofList]
  simp only [outcome_hexadecimalDepth positive fits, drafted, Draft.enterSections, settled]

end Toml

namespace Settings

open Text Toml

theorem forall_mem_hexadecimalDepth {property : Char → Prop} (width number : Nat)
    (front : ∀ char ∈ "parser.max_depth = 0x".toList, property char)
    (digits : ∀ digit < 16, property (hexDigit digit)) :
    ∀ char ∈ hexadecimalDepth width number, property char := by
  have split : "parser.max_depth = 0x".toList = "parser.max_depth = ".toList ++ ['0', 'x'] := by
    decide
  simp only [split, List.forall_mem_append, List.forall_mem_cons] at front
  obtain ⟨place, zero, mark, -⟩ := front
  delta hexadecimalDepth
  simp only [List.forall_mem_append, List.forall_mem_cons]
  exact ⟨place, zero, mark, forall_mem_hexDigits width number digits⟩

/-- A settings file with a natural number of any size as the depth. -/
theorem documentOf_hexadecimalDepth {width number : Nat} (positive : 0 < width)
    (fits : number < 16 ^ width) (path : Path) :
    documentOf path (asciiBytes (hexadecimalDepth width number)) =
      .ok [("parser", .table [("max_depth", .integer number)])] := by
  have ascii : IsAscii (hexadecimalDepth width number) :=
    forall_mem_hexadecimalDepth width number (by simp) (by decide)
  have noReturn : ∀ char ∈ hexadecimalDepth width number, char ≠ '\r' :=
    forall_mem_hexadecimalDepth width number (by simp) (by decide)
  rw [documentOf, decode_asciiBytes ascii]
  simp only [unifyLineEnds_eq_self fun member => noReturn _ member rfl,
    read_hexadecimalDepth positive fits]

end Settings

end LicenseExpr
