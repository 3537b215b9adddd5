import AudioLibrary.Relational.Like
import AudioLibrary.Relational.Value

/-!
# Bytes as pattern matching reads them

Bytes are never refused.  A byte below the lead bytes stands for the character with its number; a
lead byte takes all bytes that may continue it, however many there are, and the bits collected from
them are a word, of which high bits are lost.
-/

namespace AudioLibrary.Relational

/-- The bits that a lead byte starts with. -/
def leadBits (b : Nat) : Nat :=
  if b < 0xE0 then b % 32
  else if b < 0xF0 then b % 16
  else if b < 0xF8 then b % 8
  else if b < 0xFC then b % 4
  else if b < 0xFE then b % 2
  else 0

/-- The place for collected bits: U+FFFD for what must not be written this way, and no character
beyond the last one. -/
def collected (n : Nat) : Place :=
  if n < 0x80 ∨ n = 0xFFFE ∨ n = 0xFFFF ∨ (0xD800 ≤ n ∧ n < 0xE000) then some '\ufffd'
  else if h : n.isValidChar then some (Char.ofNatAux n h)
  else none

/-- The bits after one more byte. -/
def collectMore (n b : Nat) : Nat := (n * 64 + b % 64) % 2 ^ 32

/-- The places that bytes stand for, after the bits of a lead byte if one is open. -/
def placesAfter : Option Nat → List Nat → List Place
  | none, [] => []
  | some n, [] => [collected n]
  | none, b :: bs =>
      if 0xC0 ≤ b then placesAfter (some (leadBits b)) bs
      else some (Char.ofNat b) :: placesAfter none bs
  | some n, b :: bs =>
      if b / 64 = 2 then placesAfter (some (collectMore n b)) bs
      else
        collected n ::
          if 0xC0 ≤ b then placesAfter (some (leadBits b)) bs
          else some (Char.ofNat b) :: placesAfter none bs

/-- The places of a value's text; nothing has none. -/
def places? (v : Value) : Option (List Place) :=
  match v with
  | .blob bytes => some (placesAfter none (bytes.map UInt8.toNat))
  | v => v.chars?.map fun cs => cs.map some

/-- The places of a text are its characters. -/
theorem places?_text (s : String) : places? (.text s) = some (s.toList.map some) := rfl

end AudioLibrary.Relational
