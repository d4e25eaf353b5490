import LicenseExpr.Toml.Lexeme
import LicenseExpr.Toml.Table

/-!
# Values of a TOML document

A value is a string, a boolean, a number, a moment, an array of values or an
inline table. Arrays and inline tables may spread over lines, with comments,
and may end in a comma; they are nested up to a limit.
-/

namespace LicenseExpr.Toml

open LicenseExpr.Text

/-- What is left of a text after something has been read from it. -/
abbrev Remainder (text : List Char) := { rest : List Char // rest.length < text.length }

def remainder? (text rest : List Char) : Except Fault (Remainder text) :=
  if shorter : rest.length < text.length then .ok ⟨rest, shorter⟩ else .error .malformed

/-- What follows a comment after its mark; control characters may not occur in it. -/
def skipComment (text : List Char) : Except Fault (List Char) :=
  if (text.takeWhile (· != '\n')).any isControl then .error .malformed
  else .ok (text.dropWhile (· != '\n'))

/-- What follows the blanks, line ends and comments at the front of a text. -/
def skipGaps (text : List Char) : Except Fault (List Char) :=
  match text with
  | [] => .ok []
  | char :: rest =>
      if isSpace char || char == '\n' then skipGaps rest
      else if char = '#' then
        match skipComment rest with
        | .ok after => if after.length ≤ rest.length then skipGaps after else .error .malformed
        | .error fault => .error fault
      else .ok (char :: rest)
termination_by text.length

/-- The word that a text begins with, if the text goes on with it. -/
def literal? (word : String) (text : List Char) : Option (List Char) :=
  if word.toList.isPrefixOf text then some (text.drop word.length) else none

def scalar? (text : List Char) : Option (Setting × List Char) :=
  match string? text with
  | some (body, rest) => some (.text (String.ofList body), rest)
  | none =>
      match literal? "true" text with
      | some rest => some (.boolean true, rest)
      | none =>
          match literal? "false" text with
          | some rest => some (.boolean false, rest)
          | none => word? text

mutual

/-- The value at the front of a text, with as many arrays and inline tables in each other as
there is room for. -/
def value (room : Nat) (text : List Char) : Except Fault (Setting × Remainder text) :=
  match room, text with
  | room + 1, '[' :: rest => do
      let (items, after) ← items room rest
      return (.list items, ⟨after.val, Nat.lt_succ_of_lt after.property⟩)
  | room + 1, '\x7b' :: rest => do
      let (found, after) ← entries room [] rest
      let table ← tableValue found
      return (.table table, ⟨after.val, Nat.lt_succ_of_lt after.property⟩)
  | _, text =>
      match scalar? text with
      | some (value, rest) => (remainder? text rest).map fun rest => (value, rest)
      | none => .error .malformed
termination_by (text.length, 1)

/-- The items of an array from an item or the closing bracket on. -/
def items (room : Nat) (text : List Char) : Except Fault (List Setting × Remainder text) := do
  let start ← skipGaps text
  match start with
  | ']' :: rest => (remainder? text rest).map fun rest => ([], rest)
  | start =>
      if _ : start.length ≤ text.length then
        let (item, rest) ← value room start
        let next ← skipGaps rest.val
        match next with
        | ',' :: more =>
            let more ← remainder? text more
            let (others, after) ← items room more.val
            return (item :: others, ⟨after.val, Nat.lt_trans after.property more.property⟩)
        | ']' :: after => (remainder? text after).map fun after => ([item], after)
        | _ => .error .malformed
      else .error .malformed
termination_by (text.length, 2)
decreasing_by
  · rcases Nat.lt_or_eq_of_le ‹start.length ≤ text.length› with less | same
    · exact Prod.Lex.left _ _ less
    · rw [same]
      exact Prod.Lex.right _ (by omega)
  · exact Prod.Lex.left _ _ more.property

/-- The entries of an inline table from a key or the closing brace on, after those read so
far. -/
def entries (room : Nat) (found : Entries) (text : List Char) :
    Except Fault (Entries × Remainder text) := do
  let start ← skipGaps text
  match start with
  | '\x7d' :: rest => (remainder? text rest).map fun rest => (found, rest)
  | start =>
      match key? start with
      | none => .error .malformed
      | some (path, rest) =>
          match skipSpaces rest with
          | '=' :: rest => do
              let start ← remainder? text (skipSpaces rest)
              let (value, rest) ← value room start.val
              let found ← assign found path value
              let next ← skipGaps rest.val
              match next with
              | ',' :: more =>
                  let more ← remainder? text more
                  let (found, after) ← entries room found more.val
                  return (found, ⟨after.val, Nat.lt_trans after.property more.property⟩)
              | '\x7d' :: after => (remainder? text after).map fun after => (found, after)
              | _ => .error .malformed
          | _ => .error .malformed
termination_by (text.length, 2)
decreasing_by
  · exact Prod.Lex.left _ _ start.property
  · exact Prod.Lex.left _ _ more.property

end

end LicenseExpr.Toml
