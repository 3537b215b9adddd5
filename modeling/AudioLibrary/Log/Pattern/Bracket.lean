import AudioLibrary.Log.Pattern.Escape

/-!
# Classes in brackets

A class lists characters, ranges, named classes and further classes, and may be what two classes
have in common, or what one has and the other lacks.  `readBracket` reads a class and measures how
deep it is nested.
-/

namespace AudioLibrary.LogPattern

/-- The height of something made of parts with these heights; a single part is the thing itself. -/
def nestedHeight : List Nat → Nat
  | [] => 0
  | [h] => h
  | hs => hs.foldl max 0 + 1

/-- A class that has not been closed. -/
structure OpenClass where
  /-- The height of what stands before the last operator. -/
  left : Option Nat := none
  /-- The heights of the members after it. -/
  members : List Nat := []

namespace OpenClass

/-- The height of what stands in the brackets. -/
def height (c : OpenClass) : Nat := nestedHeight (c.left.toList ++ [nestedHeight c.members])

/-- The class with one more member. -/
def add (c : OpenClass) (height : Nat) : OpenClass := { c with members := height :: c.members }

/-- The class after an operator. -/
def operate (c : OpenClass) : OpenClass := { left := some c.height }

end OpenClass

/-! ## The beginning of a class -/

/-- The class with the minus signs at the start of a text, and what follows them. -/
def readDashes (m : Mode) (c : OpenClass) : List Char → OpenClass × List Char
  | [] => (c, [])
  | '-' :: cs => readDashes m (c.add 0) (m.skip cs)
  | cs => (c, cs)
termination_by cs => cs.length
decreasing_by exact Nat.lt_succ_of_le (m.length_skip_le cs)

/-- The class after an opening bracket, and what follows.  Minus signs at the start are members, and
so is a closing bracket. -/
def openClass (m : Mode) (cs : List Char) : Option (OpenClass × List Char) :=
  let cs := m.skip cs
  let negated := cs.head? = some '^'
  let (c, cs) := readDashes m {} (if negated then m.skip (cs.drop 1) else cs)
  let (c, cs) := match c.members, cs with
    | [], ']' :: cs => (c.add 0, m.skip cs)
    | _, cs => (c, cs)
  -- without its members a class of bytes has bytes that are no character
  if negated && !m.characters then none
  else if c.members.isEmpty || (Atom.plain '-').admittedMember m then some (c, cs)
  else none

/-! ## Members -/

/-- The names of classes. -/
def classNames : List String :=
  ["alnum", "alpha", "ascii", "blank", "cntrl", "digit", "graph", "lower", "print", "punct",
    "space", "upper", "word", "xdigit"]

/-- Whether a class given by its name is negated, and what follows it, after its bracket; none if
there is no such class. -/
def namedClass? (cs : List Char) : Option (Bool × List Char) := do
  let ':' :: cs := cs | none
  let negated := cs.head? = some '^'
  let cs := if negated then cs.drop 1 else cs
  let ':' :: ']' :: rest := cs.dropWhile (· ≠ ':') | none
  if classNames.contains (String.ofList (cs.takeWhile (· ≠ ':'))) then return (negated, rest)
  else none

/-- Whether a named class can be matched. -/
def admittedName (m : Mode) (negated : Bool) : Bool :=
  if m.characters then !m.ignoreCase else !negated

/-- The next character that counts, seen from before a comment: of a comment the first character
after its mark counts. -/
def peek (m : Mode) (cs : List Char) : Option Char :=
  if m.spaced then
    let cs := cs.dropWhile Text.isBlank
    (if cs.head? = some '#' then (cs.drop 1).dropWhile Text.isBlank else cs).head?
  else cs.head?

/-- A character, a range's end or an escape, and what follows. -/
def readMember (m : Mode) : List Char → Option (Atom × List Char)
  | [] => none
  | '\\' :: cs => readEscape m cs
  | c :: cs => some (.plain c, cs)

/-- Whether two ends make a range that can be matched. -/
def isRange (m : Mode) : Atom → Atom → Bool
  | .literal a x, .literal b y =>
      a ≤ b && (Atom.literal a x).admittedMember m && (Atom.literal b y).admittedMember m
  | _, _ => false

/-- Passes over a member or a range. -/
def skipMember (m : Mode) (cs : List Char) : Option (List Char) := do
  let (first, cs) ← readMember m cs
  match m.skip cs with
  | [] => none
  | '-' :: cs =>
      if peek m cs = some ']' ∨ peek m cs = some '-' then
        if first.admittedMember m then some ('-' :: cs) else none
      else
        let (last, rest) ← readMember m (m.skip cs)
        if isRange m first last then some rest else none
  | cs => if first.admittedMember m then some cs else none

/-! ## Whole classes -/

/-- The height of a class and what follows it, after its first bracket.  `outer` holds the classes
around the one that is read, innermost first; `fuel` is more than the number of characters. -/
def readClass (m : Mode) : Nat → List OpenClass → OpenClass → List Char → Option (Nat × List Char)
  | 0, _, _, _ => none
  | fuel + 1, outer, c, cs =>
      match m.skip cs with
      | [] => none
      | '[' :: cs =>
          match namedClass? cs with
          | some (negated, rest) =>
              if admittedName m negated then readClass m fuel outer (c.add 0) rest else none
          | none => do
              let (inner, rest) ← openClass m cs
              readClass m fuel (c :: outer) inner rest
      | ']' :: cs =>
          match outer with
          | [] => some (c.height + 1, cs)
          | parent :: outer => readClass m fuel outer (parent.add (c.height + 1)) cs
      | '&' :: '&' :: cs | '-' :: '-' :: cs | '~' :: '~' :: cs =>
          readClass m fuel outer c.operate cs
      | cs => do readClass m fuel outer (c.add 0) (← skipMember m cs)

/-- The height of a class and what follows it, after its bracket. -/
def readBracket (m : Mode) (cs : List Char) : Option (Nat × List Char) := do
  let (c, rest) ← openClass m cs
  readClass m (rest.length + 1) [] c rest

end AudioLibrary.LogPattern
