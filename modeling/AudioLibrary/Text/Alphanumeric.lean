import AudioLibrary.Text.AlphanumericTable
import AudioLibrary.Text.Ranges

/-!
# Letters and numerals of all scripts

Names in log filters and in patterns are made of these.
-/

namespace AudioLibrary.Text

/-- Whether the character is a letter. -/
def isAlphabetic (c : Char) : Bool := inRanges alphabeticRanges c.toNat

/-- Whether the character is a letter or a numeral. -/
def isAlphanumeric (c : Char) : Bool := isAlphabetic c || inRanges numeralRanges c.toNat

end AudioLibrary.Text
