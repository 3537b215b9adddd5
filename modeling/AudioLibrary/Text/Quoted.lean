import AudioLibrary.Text.HiddenTable
import AudioLibrary.Text.Ranges

/-!
# Quoted texts

A text between double quotes in which quotes, backslashes and characters without a visible shape
are escaped.  Configurations and log fields show texts this way.
-/

namespace AudioLibrary.Text

/-- Whether a quoted text shows the character by its number. -/
def isHidden (c : Char) : Bool := inRanges hiddenRanges c.toNat

/-- The number of a character in small hexadecimal digits, between braces. -/
def numbered (c : Char) : List Char :=
  ['\\', 'u', '\x7b'] ++ Nat.toDigits 16 c.toNat ++ ['\x7d']

/-- What a quoted text shows for a character. -/
def quoteChar (c : Char) : List Char :=
  if c = '\x00' then ['\\', '0']
  else if c = '\t' then ['\\', 't']
  else if c = '\r' then ['\\', 'r']
  else if c = '\n' then ['\\', 'n']
  else if c = '"' ∨ c = '\\' then ['\\', c]
  else if isHidden c then numbered c
  else [c]

/-- A text in quotes. -/
def quoted (s : String) : String :=
  String.ofList ('"' :: s.toList.flatMap quoteChar ++ ['"'])

end AudioLibrary.Text
