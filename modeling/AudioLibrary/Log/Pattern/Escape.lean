import AudioLibrary.Log.Pattern.Mode

/-!
# Escapes

A backslash gives the character after it another meaning: a class, a position, a character by its
number, or, before a sign, the sign itself.  `readEscape` reads what stands after a backslash.

Not every part of a pattern can be matched.  Classes of characters and letter case beyond ASCII need
tables that are not at hand, and bytes must not be matched that are no character.
-/

namespace AudioLibrary.LogPattern

/-- A part of a pattern that has no parts itself. -/
inductive Atom where
  /-- A character; `octet` if it is given by two hexadecimal digits. -/
  | literal (c : Char) (octet : Bool)
  | anyChar
  /-- Digits, blanks or characters of words. -/
  | named (negated : Bool)
  /-- A place in the text; `ofWords` if it depends on where words are. -/
  | position (ofWords : Bool)
deriving DecidableEq, Repr

namespace Atom

/-- A character as it is written. -/
def plain (c : Char) : Atom := literal c false

/-- Whether the atom can be matched. -/
def admitted (m : Mode) : Atom → Bool
  | literal c octet => if m.characters then !m.ignoreCase else !octet || c.toNat < 0x80
  | anyChar => m.characters
  | named negated => !m.characters && !negated
  | position _ => true

/-- Whether the atom can be matched as a member of a class. -/
def admittedMember (m : Mode) : Atom → Bool
  | literal c _ => if m.characters then !m.ignoreCase else c.toNat < 0x80
  | named negated => !m.characters && !negated
  | anyChar | position _ => false

end Atom

/-! ## Numbers of characters -/

/-- The value of a hexadecimal digit. -/
def hexDigit? (c : Char) : Option Nat :=
  if c.isDigit then some (c.toNat - '0'.toNat)
  else if 'a' ≤ c ∧ c ≤ 'f' then some (c.toNat - 'a'.toNat + 10)
  else if 'A' ≤ c ∧ c ≤ 'F' then some (c.toNat - 'A'.toNat + 10)
  else none

/-- A number with `count` more digits, and what follows them. -/
def readDigits (m : Mode) : Nat → Nat → List Char → Option (Nat × List Char)
  | 0, n, cs => some (n, cs)
  | _ + 1, _, [] => none
  | count + 1, n, c :: cs => do readDigits m count (16 * n + (← hexDigit? c)) (m.skip cs)

/-- A number in digits up to a closing brace, and what follows it; `n` is the number of the digits
before, if there are any. -/
def readBraced (m : Mode) (n : Option Nat) : List Char → Option (Nat × List Char)
  | [] => none
  | c :: cs =>
      if c = '\x7d' then n.map (·, m.skip cs)
      else
        match hexDigit? c with
        | some d => readBraced m (some (16 * n.getD 0 + d)) (m.skip cs)
        | none => none
termination_by cs => cs.length
decreasing_by exact Nat.lt_succ_of_le (m.length_skip_le cs)

/-- The character with a number. -/
def charOf? (n : Nat) : Option Char := if h : n.isValidChar then some (Char.ofNatAux n h) else none

/-- A character by its number, after the letter that says how many digits there are. -/
def readNumbered (m : Mode) (letter : Char) (cs : List Char) : Option (Atom × List Char) := do
  match m.skip cs with
  | [] => none
  | '\x7b' :: cs =>
      let (n, rest) ← readBraced m none (m.skip cs)
      return (.plain (← charOf? n), rest)
  | cs =>
      let (n, rest) ← readDigits m (if letter = 'x' then 2 else if letter = 'u' then 4 else 8) 0 cs
      return (.literal (← charOf? n) (letter = 'x'), rest)

/-! ## Ends of words -/

/-- What a place at a word is named by, between braces. -/
def boundaryNames : List String := ["start", "end", "start-half", "end-half"]

/-- Whether a character may stand in such a name. -/
def inBoundaryName (c : Char) : Bool := c.isAlpha || c = '-'

/-- The name at the start of a text, and what follows it. -/
def readName (m : Mode) : List Char → List Char × List Char
  | [] => ([], [])
  | c :: cs =>
      if inBoundaryName c then
        let (name, rest) := readName m (m.skip cs)
        (c :: name, rest)
      else ([], c :: cs)
termination_by cs => cs.length
decreasing_by exact Nat.lt_succ_of_le (m.length_skip_le cs)

/-- What follows the name of a place at a word.  Braces without a name are left for a count. -/
def afterBoundaryName (m : Mode) : List Char → Option (List Char)
  | '\x7b' :: cs =>
      match m.skip cs with
      | [] => none
      | c :: inner =>
          if inBoundaryName c then
            match readName m (c :: inner) with
            | (name, '\x7d' :: rest) =>
                if boundaryNames.contains (String.ofList name) then some rest else none
            | _ => none
          else some ('\x7b' :: cs)
  | cs => some cs

/-! ## Escapes -/

/-- The control characters that have a letter. -/
def controls : List (Char × Char) :=
  [('a', '\x07'), ('f', '\x0c'), ('t', '\t'), ('n', '\n'), ('r', '\r'), ('v', '\x0b')]

/-- What stands after a backslash, and what follows it. -/
def readEscape (m : Mode) : List Char → Option (Atom × List Char)
  | [] => none
  | c :: cs =>
      if ['x', 'u', 'U'].contains c then readNumbered m c cs
      else if ['d', 's', 'w'].contains c then some (.named false, cs)
      else if ['D', 'S', 'W'].contains c then some (.named true, cs)
      else if c = 'A' ∨ c = 'z' then some (.position false, cs)
      else if c = 'b' then (afterBoundaryName m cs).map (.position true, ·)
      else if ['B', '<', '>'].contains c then some (.position true, cs)
      else
        match controls.lookup c with
        | some d => some (.plain d, cs)
        | none => if c.toNat < 0x80 && !c.isAlphanum then some (.plain c, cs) else none

end AudioLibrary.LogPattern
