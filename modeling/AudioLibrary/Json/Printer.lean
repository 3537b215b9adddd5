import AudioLibrary.Json.Basic

/-!
# Writing JSON

The compact form: no blanks between tokens.  In a string the quote, the backslash and the control
characters below U+0020 are escaped, and nothing else.
-/

namespace AudioLibrary.Json

/-- The two small hexadecimal digits of a number below 256. -/
def hexByte (n : Nat) : List Char := [Nat.digitChar (n / 16), Nat.digitChar (n % 16)]

/-- What a string shows for a character. -/
def escapeChar (c : Char) : List Char :=
  if c = '"' then ['\\', '"']
  else if c = '\\' then ['\\', '\\']
  else if c = '\x08' then ['\\', 'b']
  else if c = '\t' then ['\\', 't']
  else if c = '\n' then ['\\', 'n']
  else if c = '\x0c' then ['\\', 'f']
  else if c = '\r' then ['\\', 'r']
  else if c.toNat < 0x20 then ['\\', 'u', '0', '0'] ++ hexByte c.toNat
  else [c]

/-- A string with its quotes. -/
def printString (s : List Char) : List Char := '"' :: s.flatMap escapeChar ++ ['"']

/-- A text without content is written as half of a surrogate pair. -/
def printText : Option String → List Char
  | some s => printString s.toList
  | none => ['"', '\\', 'u', 'd', '8', '0', '0', '"']

def printDigits (ds : List Nat) : List Char := ds.map Nat.digitChar

/-- A number as it was written; an exponent is marked by a small `e` and shows only a minus. -/
def printNumeral (n : Numeral) : List Char :=
  (if n.negative then ['-'] else []) ++ printDigits n.whole ++
    (if n.fraction.isEmpty then [] else '.' :: printDigits n.fraction) ++
    match n.exponent with
    | none => []
    | some (minus, ds) => 'e' :: (if minus then ['-'] else []) ++ printDigits ds

mutual

/-- The compact text of a document. -/
def print : Json → List Char
  | .null => ['n', 'u', 'l', 'l']
  | .bool true => ['t', 'r', 'u', 'e']
  | .bool false => ['f', 'a', 'l', 's', 'e']
  | .number n => printNumeral n
  | .text s => printText s
  | .array items => '[' :: printItems items ++ [']']
  | .object members => '\x7b' :: printMembers members ++ ['\x7d']

/-- Items with commas between them. -/
def printItems : List Json → List Char
  | [] => []
  | [item] => print item
  | item :: items => print item ++ ',' :: printItems items

/-- Members with commas between them. -/
def printMembers : List (Option String × Json) → List Char
  | [] => []
  | [(name, value)] => printText name ++ ':' :: print value
  | (name, value) :: members => printText name ++ ':' :: print value ++ ',' :: printMembers members

end

/-- The compact text of a document, as a string. -/
def render (j : Json) : String := String.ofList j.print

end AudioLibrary.Json
