import AudioLibrary.Text.Blank

/-!
# Modes of patterns

A pattern is a regular expression.  Flags such as `(?i-u)` set the mode in which what follows is
read, up to the end of the group that they stand in.

`Mode.skip` passes over blanks and comments where the mode says so, and `readFlags` reads flags.
-/

namespace AudioLibrary.LogPattern

/-- How a part of a pattern is read. -/
structure Mode where
  /-- Letter case does not count. -/
  ignoreCase : Bool := false
  /-- Characters are matched rather than bytes. -/
  characters : Bool := true
  /-- Blanks and comments do not count. -/
  spaced : Bool := false
deriving DecidableEq, Repr

/-- What is left after blanks and comments, where `comment` says whether the text starts within a
comment, which a line feed ends. -/
def skipBlanks (comment : Bool) : List Char → List Char
  | [] => []
  | c :: cs =>
      if comment then skipBlanks (c ≠ '\n') cs
      else if Text.isBlank c then skipBlanks false cs
      else if c = '#' then skipBlanks true cs
      else c :: cs

theorem length_skipBlanks_le (comment : Bool) (cs : List Char) :
    (skipBlanks comment cs).length ≤ cs.length := by
  induction cs generalizing comment with
  | nil => simp [skipBlanks]
  | cons c cs ih =>
      unfold skipBlanks
      repeat' split
      · exact Nat.le_succ_of_le (ih _)
      · exact Nat.le_succ_of_le (ih _)
      · exact Nat.le_succ_of_le (ih _)
      · exact Nat.le_refl _

namespace Mode

/-- What is left after all that does not count in the mode. -/
def skip (m : Mode) (cs : List Char) : List Char := if m.spaced then skipBlanks false cs else cs

theorem length_skip_le (m : Mode) (cs : List Char) : (m.skip cs).length ≤ cs.length := by
  unfold skip
  split
  · exact length_skipBlanks_le false cs
  · exact Nat.le_refl _

/-! ## Flags -/

/-- The mode after a flag. -/
def set (m : Mode) (flag : Char) (on : Bool) : Mode :=
  match flag with
  | 'i' => { m with ignoreCase := on }
  | 'u' => { m with characters := on }
  | 'x' => { m with spaced := on }
  | _ => m

end Mode

/-- The flags that there are. -/
def flagNames : List Char := ['i', 'm', 's', 'U', 'u', 'R', 'x']

/-- Flags that have been read. -/
structure Flags where
  mode : Mode
  /-- Whether there is no flag at all. -/
  empty : Bool
  /-- Whether they are those of a group that follows. -/
  group : Bool
  rest : List Char

/-- Reads flags up to a colon or a closing parenthesis, where `seen` holds those that stand before,
last first.  None stands twice; those after a minus are taken away, and there must be one. -/
def readFlags (m : Mode) (seen : List Char) : List Char → Option Flags
  | [] => none
  | c :: cs =>
      if c = ':' ∨ c = ')' then
        if seen.head? = some '-' then none
        else some { mode := m, empty := seen.isEmpty, group := c = ':', rest := cs }
      else if seen.contains c then none
      else if c = '-' then readFlags m (c :: seen) cs
      else if flagNames.contains c then readFlags (m.set c (!seen.contains '-')) (c :: seen) cs
      else none

end AudioLibrary.LogPattern
