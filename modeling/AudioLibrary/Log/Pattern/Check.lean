import AudioLibrary.Log.Pattern.Bracket
import AudioLibrary.Number.Power
import AudioLibrary.Text.Alphanumeric

/-!
# Patterns that can be used

`check` says whether a pattern can be used to match the value of a field.  It is read from left to
right; groups that are open are kept in a list, with the mode to go back to.

A pattern that can be read is refused if it is nested too deeply or has a part that cannot be
matched, and also if it asks for ends of words, unless words are words of ASCII.
-/

namespace AudioLibrary.LogPattern

/-- Why a pattern cannot be used. -/
inductive Refusal where
  | unreadable
  | wordBoundary
deriving DecidableEq, Repr

def Refusal.message : Refusal → String
  | unreadable => "error building NFA"
  | wordBoundary =>
      "unsupported regex feature for DFAs: cannot build DFAs for regexes with Unicode word " ++
        "boundaries; switch to ASCII word boundaries, or heuristically enable Unicode word " ++
        "boundaries or use a different regex engine"

/-- How deep a pattern may be nested. -/
def maxNesting : Nat := 250

/-! ## What has been read -/

/-- A part of a sequence. -/
structure Item where
  /-- Whether a sign of repetition may follow. -/
  repeatable : Bool := true
  height : Nat := 0

/-- What has been read of a group, or of the whole. -/
structure Level where
  /-- The heights of the alternatives before the last one. -/
  finished : List Nat := []
  /-- The parts of the last alternative, last first. -/
  items : List Item := []

namespace Level

/-- The height of the last alternative. -/
def lastHeight (l : Level) : Nat := nestedHeight (l.items.map Item.height)

def height (l : Level) : Nat := nestedHeight (l.lastHeight :: l.finished)

/-- The level after a bar. -/
def alternate (l : Level) : Level := { finished := l.lastHeight :: l.finished }

def add (l : Level) (i : Item) : Level := { l with items := i :: l.items }

/-- The level with its last part repeated. -/
def repeatLast? (l : Level) : Option Level :=
  match l.items with
  | [] => none
  | i :: items =>
      if i.repeatable then some { l with items := { height := i.height + 1 } :: items } else none

end Level

/-- What has been read of a pattern. -/
structure Progress where
  mode : Mode := {}
  level : Level := {}
  /-- The groups that are open, innermost first, each with the mode in which it started. -/
  outer : List (Level × Mode) := []
  /-- The names that groups have been given. -/
  names : List (List Char) := []
  /-- Whether ends of words that are not words of ASCII have been asked for. -/
  wordBoundary : Bool := false

namespace Progress

def add (p : Progress) (i : Item) : Progress := { p with level := p.level.add i }

/-- The progress after an atom. -/
def addAtom? (p : Progress) (a : Atom) : Option Progress :=
  if a.admitted p.mode then
    some { p.add {} with
      wordBoundary := p.wordBoundary || (a == .position true && p.mode.characters) }
  else none

/-- The progress in a new group. -/
def enter (p : Progress) (mode : Mode) : Progress :=
  { p with mode, level := {}, outer := (p.level, p.mode) :: p.outer }

/-- The progress after the end of a group. -/
def leave? (p : Progress) : Option Progress :=
  match p.outer with
  | [] => none
  | (level, mode) :: outer =>
      some { p with mode, level := level.add { height := p.level.height + 1 }, outer }

/-! ## Groups -/

/-- Whether a name may hold the character, at its start or later. -/
def inName (first : Bool) (c : Char) : Bool :=
  if first then c = '_' || Text.isAlphabetic c
  else ['_', '.', '[', ']'].contains c || Text.isAlphanumeric c

/-- The progress in a group after its name, which no other group has. -/
def enterNamed? (p : Progress) (cs : List Char) : Option (Progress × List Char) :=
  let name := cs.takeWhile (· ≠ '>')
  match name, cs.dropWhile (· ≠ '>') with
  | c :: more, _ :: rest =>
      if inName true c && more.all (inName false) && !p.names.contains name then
        some ({ p.enter p.mode with names := name :: p.names }, rest)
      else none
  | _, _ => none

/-- The progress after an opening parenthesis: in a group, or with other flags. -/
def open? (p : Progress) (cs : List Char) : Option (Progress × List Char) :=
  match p.mode.skip cs with
  | '?' :: cs =>
      match cs with
      -- nothing can be asked about the text before or after
      | '=' :: _ | '!' :: _ | '<' :: '=' :: _ | '<' :: '!' :: _ => none
      | 'P' :: '<' :: cs | '<' :: cs => p.enterNamed? cs
      | cs => do
          let flags ← readFlags p.mode [] cs
          if flags.group then return (p.enter flags.mode, flags.rest)
          else if flags.empty then none
          else return ({ p.add { repeatable := false } with mode := flags.mode }, flags.rest)
  | cs => some (p.enter p.mode, cs)

/-! ## Repetition -/

/-- What follows a sign of repetition, which a question mark may weaken. -/
def afterWeak : List Char → List Char
  | '?' :: cs => cs
  | cs => cs

/-- The digits at the start of a text, and what follows them. -/
def readCount (m : Mode) : List Char → List Char × List Char
  | [] => ([], [])
  | c :: cs =>
      if c.isDigit then
        let (digits, rest) := readCount m (m.skip cs)
        (c :: digits, rest)
      else ([], c :: cs)
termination_by cs => cs.length
decreasing_by exact Nat.lt_succ_of_le (m.length_skip_le cs)

/-- What is left after blanks, and after comments where they do not count. -/
def skipAllBlanks (m : Mode) : List Char → List Char
  | [] => []
  | c :: cs => if Text.isBlank c then skipAllBlanks m (m.skip cs) else c :: cs
termination_by cs => cs.length
decreasing_by exact Nat.lt_succ_of_le (m.length_skip_le cs)

/-- What follows a count of repetitions, after its brace.  There is one number in it: a comma would
have ended the directive. -/
def afterCount (m : Mode) (cs : List Char) : Option (List Char) :=
  let (digits, cs) := readCount m ((m.skip cs).dropWhile Text.isBlank)
  match skipAllBlanks m cs with
  | '\x7d' :: rest =>
      let n := digits.foldl (fun n d => 10 * n + (d.toNat - '0'.toNat)) 0
      if !digits.isEmpty && n < 2 ^ 32 then some (afterWeak (m.skip rest)) else none
  | _ => none

/-- The progress after the last part has been repeated. -/
def repeatLast? (p : Progress) : Option Progress :=
  p.level.repeatLast?.map fun level => { p with level }

/-! ## Whole patterns -/

/-- The progress after the next part, and what follows it. -/
def step? (p : Progress) : List Char → Option (Progress × List Char)
  | [] => none
  | c :: cs =>
      match c with
      | '(' => p.open? cs
      | ')' => p.leave?.map (·, cs)
      | '|' => some ({ p with level := p.level.alternate }, cs)
      | '[' => do
          let (height, rest) ← readBracket p.mode cs
          return (p.add { height }, rest)
      | '?' | '*' | '+' => p.repeatLast?.map (·, afterWeak cs)
      | '\x7b' => do return (← p.repeatLast?, ← afterCount p.mode cs)
      | '\\' => do
          let (a, rest) ← readEscape p.mode cs
          return (← p.addAtom? a, rest)
      | '.' => do return (← p.addAtom? .anyChar, cs)
      | '^' | '$' => do return (← p.addAtom? (.position false), cs)
      | c => do return (← p.addAtom? (.plain c), cs)

/-- The progress after all of a text, where `fuel` is more than the number of its characters. -/
def run? : Nat → Progress → List Char → Option Progress
  | 0, _, _ => none
  | fuel + 1, p, cs =>
      match p.mode.skip cs with
      | [] => if p.outer.isEmpty then some p else none
      | cs => do
          let (p, rest) ← p.step? cs
          p.run? fuel rest

end Progress

/-- Whether a pattern can be used. -/
def check (pattern : List Char) : Except Refusal Unit :=
  match Progress.run? (pattern.length + 1) {} pattern with
  | none => .error .unreadable
  | some p =>
      if maxNesting < p.level.height then .error .unreadable
      else if p.wordBoundary then .error .wordBoundary
      else .ok ()

end AudioLibrary.LogPattern
