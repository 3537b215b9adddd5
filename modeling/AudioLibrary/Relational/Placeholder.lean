/-!
# Placeholders in the text of a statement

A placeholder is a question mark outside the texts between apostrophes.
-/

namespace AudioLibrary.Relational

/-- The number of placeholders, where `literal` says whether the text starts inside a literal. -/
def countPlaceholders (literal : Bool) : List Char → Nat
  | [] => 0
  | c :: text =>
      if c = '\'' then countPlaceholders (!literal) text
      else if c = '?' ∧ !literal then countPlaceholders literal text + 1
      else countPlaceholders literal text

/-- The number of placeholders in a statement. -/
def placeholderCount (sql : String) : Nat := countPlaceholders false sql.toList

end AudioLibrary.Relational
