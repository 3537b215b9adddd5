/-!
# Texts from bytes

Reading UTF-8 character by character.  Bytes that start no character are set apart: a run of them
that no further byte could mend, or an end that comes too early.
-/

namespace AudioLibrary.Text.Utf8

/-- What stands at the start of some bytes. -/
inductive Chunk where
  | char (c : Char)
  /-- A run of bytes that is part of no character. -/
  | stray
  /-- The beginning of a character that the end cuts off. -/
  | cut
deriving DecidableEq, Repr

/-- How many bytes follow a first byte, and the range of the second one; none if no character starts
with it. -/
def following? (b : Nat) : Option (Nat × Nat × Nat) :=
  if b < 0x80 then some (0, 0, 0)
  else if b < 0xC2 then none
  else if b < 0xE0 then some (1, 0x80, 0xBF)
  else if b = 0xE0 then some (2, 0xA0, 0xBF)
  else if b = 0xED then some (2, 0x80, 0x9F)
  else if b < 0xF0 then some (2, 0x80, 0xBF)
  else if b = 0xF0 then some (3, 0x90, 0xBF)
  else if b < 0xF4 then some (3, 0x80, 0xBF)
  else if b = 0xF4 then some (3, 0x80, 0x8F)
  else none

/-- The bits of a first byte that count, given how many bytes follow. -/
def leadBits (b : Nat) : Nat → Nat
  | 0 => b
  | 1 => b % 32
  | 2 => b % 16
  | _ => b % 8

/-- Takes the bytes that follow: what they make with the bits so far, and how many were taken. -/
def takeFollowing : Nat → Nat × Nat → Nat → Nat → List Nat → Chunk × Nat
  | 0, _, bits, taken, _ => (.char (Char.ofNat bits), taken)
  | _ + 1, _, _, taken, [] => (.cut, taken)
  | n + 1, range, bits, taken, b :: bs =>
      if range.1 ≤ b ∧ b ≤ range.2 then
        takeFollowing n (0x80, 0xBF) (bits * 64 + b % 64) (taken + 1) bs
      else (.stray, taken)

/-- What starts with a byte, and how many bytes it has. -/
def chunkAt (b : Nat) (bs : List Nat) : Chunk × Nat :=
  match following? b with
  | none => (.stray, 1)
  | some (n, range) => takeFollowing n range (leadBits b n) 1 bs

/-- The chunks of some bytes with their sizes, where `fuel` is at least the number of bytes. -/
def chunksWithin : Nat → List Nat → List (Chunk × Nat)
  | 0, _ => []
  | _ + 1, [] => []
  | fuel + 1, b :: bs =>
      let u := chunkAt b bs
      u :: chunksWithin fuel ((b :: bs).drop u.2)

/-- The chunks of some bytes with their sizes. -/
def chunks (bytes : List Nat) : List (Chunk × Nat) := chunksWithin bytes.length bytes

/-- The character of a chunk; U+FFFD if it is none. -/
def Chunk.toChar : Chunk → Char
  | char c => c
  | _ => '\ufffd'

/-- The text of some bytes, U+FFFD in place of what is no character. -/
def lenient (bytes : List Nat) : String := String.ofList ((chunks bytes).map fun u => u.1.toChar)

/-- What is said of the first chunk that is no character, given how many bytes stand before it. -/
def complaint (position : Nat) : List (Chunk × Nat) → Option String
  | [] => none
  | (.char _, n) :: us => complaint (position + n) us
  | (.stray, n) :: _ =>
      some ("invalid utf-8 sequence of " ++ toString n ++ " bytes from index " ++ toString position)
  | (.cut, _) :: _ => some ("incomplete utf-8 byte sequence from index " ++ toString position)

/-- The text of some bytes, or what is wrong with them. -/
def strict (bytes : List Nat) : Except String String :=
  match complaint 0 (chunks bytes) with
  | some text => .error text
  | none => .ok (lenient bytes)

end AudioLibrary.Text.Utf8
