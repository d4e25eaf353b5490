import LicenseExpr.Text.Numeral
import LicenseExpr.Text.Quoted

/-!
# Text from bytes

Bytes are read as UTF-8, one at a time. A first byte fixes how many
continuation bytes are owed and in which range the next of them must lie. Line
ends of all kinds are then made line feeds.
-/

namespace LicenseExpr.Text

inductive DecodeReason where
  | invalidStart
  | invalidContinuation
  | endOfData
deriving DecidableEq

/-- The bytes at positions from `start` up to before `stop` begin no character. -/
structure DecodeFault where
  firstByte : Nat
  start : Nat
  stop : Nat
  reason : DecodeReason
deriving DecidableEq

def DecodeReason.description : DecodeReason → String
  | .invalidStart => "invalid start byte"
  | .invalidContinuation => "invalid continuation byte"
  | .endOfData => "unexpected end of data"

/-- The bytes of a fault with their positions. A single byte is shown in hexadecimal. -/
def DecodeFault.bytes (fault : DecodeFault) : String :=
  if fault.stop = fault.start + 1 then
    "byte 0x" ++ String.ofList (hexDigits 2 fault.firstByte) ++ " in position " ++
      integerText fault.start
  else
    "bytes in position " ++ integerText fault.start ++ "-" ++ integerText (fault.stop - 1 : Nat)

def DecodeFault.message (fault : DecodeFault) : String :=
  "'utf-8' codec can't decode " ++ fault.bytes ++ ": " ++ fault.reason.description

structure PartialChar where
  firstByte : Nat
  start : Nat
  /-- How many bytes are owed, less one. -/
  owed : Nat
  /-- The least value of the next byte. -/
  least : Nat
  /-- The greatest value of the next byte. -/
  greatest : Nat
  /-- The number made up of the bits read so far. -/
  bits : Nat

def PartialChar.begin? (byte start : Nat) : Option PartialChar :=
  if byte < 0xC2 then none
  else if byte < 0xE0 then some ⟨byte, start, 0, 0x80, 0xBF, byte - 0xC0⟩
  else if byte = 0xE0 then some ⟨byte, start, 1, 0xA0, 0xBF, 0⟩
  else if byte = 0xED then some ⟨byte, start, 1, 0x80, 0x9F, 0xD⟩
  else if byte < 0xF0 then some ⟨byte, start, 1, 0x80, 0xBF, byte - 0xE0⟩
  else if byte = 0xF0 then some ⟨byte, start, 2, 0x90, 0xBF, 0⟩
  else if byte < 0xF4 then some ⟨byte, start, 2, 0x80, 0xBF, byte - 0xF0⟩
  else if byte = 0xF4 then some ⟨byte, start, 2, 0x80, 0x8F, 4⟩
  else none

/-- Decodes bytes from a position on, in the middle of a character or between two. -/
def decodeFrom (position : Nat) (begun : Option PartialChar) :
    List UInt8 → Except DecodeFault (List Char)
  | [] =>
      match begun with
      | none => .ok []
      | some char => .error ⟨char.firstByte, char.start, position, .endOfData⟩
  | byte :: rest =>
      match begun with
      | none =>
          if byte.toNat < 0x80 then
            (decodeFrom (position + 1) none rest).map (Char.ofNat byte.toNat :: ·)
          else
            match PartialChar.begin? byte.toNat position with
            | some char => decodeFrom (position + 1) (some char) rest
            | none => .error ⟨byte.toNat, position, position + 1, .invalidStart⟩
      | some char =>
          if char.least ≤ byte.toNat ∧ byte.toNat ≤ char.greatest then
            let bits := 64 * char.bits + (byte.toNat - 0x80)
            match char.owed with
            | 0 => (decodeFrom (position + 1) none rest).map (Char.ofNat bits :: ·)
            | owed + 1 =>
                decodeFrom (position + 1)
                  (some ⟨char.firstByte, char.start, owed, 0x80, 0xBF, bits⟩) rest
          else .error ⟨char.firstByte, char.start, position, .invalidContinuation⟩

def decode (bytes : List UInt8) : Except DecodeFault (List Char) :=
  decodeFrom 0 none bytes

/-- The text with all line ends as line feeds: a carriage return ends a line, alone or with the
line feed after it. -/
def unifyLineEnds : List Char → List Char
  | [] => []
  | '\r' :: '\n' :: rest => '\n' :: unifyLineEnds rest
  | char :: rest => (if char = '\r' then '\n' else char) :: unifyLineEnds rest

end LicenseExpr.Text
