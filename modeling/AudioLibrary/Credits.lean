import AudioLibrary.Text.Blank
import AudioLibrary.Text.Collation

/-!
# Voice actor credits

A credit field is a list of names typed by hand, separated by commas of either width, with blanks
and letter case at will.  Names are compared by their keys: blanks and commas dropped, ASCII
capitals folded.

* `key` is the key of one name.
* `field` is a whole field in normal form, `,key1,key2,`; it holds `,k,` for every key `k` of the
  field.
* `displayNames` are the names as written, trimmed, for listings.
-/

namespace AudioLibrary.Credits

open AudioLibrary.Text

/-- The comma between names. -/
def separator : Char := ','

/-- The full-width comma, which separates names as well. -/
def wideSeparator : Char := '\uff0c'

/-- The blanks that normalization drops. -/
def strippedChars : List Char := [' ', '\u00a0', '\u3000', '\t', '\n', '\r']

def isStripped (c : Char) : Bool := strippedChars.contains c

/-- A full-width comma becomes a plain one. -/
def narrow (c : Char) : Char := if c = wideSeparator then separator else c

/-- Blanks dropped, commas made plain, ASCII capitals folded. -/
def fold (s : List Char) : List Char :=
  foldCase ((s.filter fun c => !isStripped c).map narrow)

/-- The key of a name, free of blanks and commas. -/
def key (name : List Char) : List Char :=
  (fold name).filter (· ≠ separator)

/-- The keys of a field, in order; empty ones dropped. -/
def keys (field : List Char) : List (List Char) :=
  ((fold field).splitOnP (· = separator)).filter (· ≠ [])

/-- The normal form of a field. -/
def field (text : List Char) : List Char :=
  separator :: List.intercalate [separator] (keys text) ++ [separator]

/-- Whether the character separates names, in either width. -/
def isSeparator (c : Char) : Bool := c = separator || c = wideSeparator

/-- The names in a field as written, trimmed; empty ones dropped. -/
def displayNames (field : List Char) : List (List Char) :=
  ((field.splitOnP isSeparator).map (trim isStripped)).filter (· ≠ [])

theorem separator_not_mem_key (name : List Char) : separator ∉ key name := by
  simp [key]

theorem nil_not_mem_keys (field : List Char) : [] ∉ keys field := by
  simp [keys]

theorem nil_not_mem_displayNames (field : List Char) : [] ∉ displayNames field := by
  simp [displayNames]

end AudioLibrary.Credits
