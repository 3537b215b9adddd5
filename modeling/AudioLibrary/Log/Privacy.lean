import AudioLibrary.Text.Collation
import AudioLibrary.Text.Search

/-!
# What log lines may show

Texts that a user typed are shown by their length alone, and paths by their last part.
-/

namespace AudioLibrary.Privacy

/-- Words in the name of a field that holds what a user typed. -/
def sensitiveWords : List String := ["query", "search", "text", "password", "token"]

/-- Whether a field of that name holds what a user typed; letter case aside. -/
def isSensitive (field : String) : Bool :=
  let folded := Text.foldCase field.toList
  sensitiveWords.any fun word => Text.occurs word.toList folded

/-- The value of a field as log lines may show it. -/
def redact (field value : String) : String :=
  if isSensitive field then "[" ++ toString value.length ++ " chars]" else value

/-- Whether the character stands between the parts of a path. -/
def isPathSeparator (c : Char) : Bool := c = '/' || c = '\\'

/-- What follows the last separator of a path. -/
def lastComponent (path : String) : String :=
  String.ofList (path.toList.reverse.takeWhile (!isPathSeparator ·)).reverse

end AudioLibrary.Privacy
