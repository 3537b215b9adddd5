import AudioLibrary.Error
import AudioLibrary.Relational.Value

/-!
# Reading rows

A column that a record needs must be there with a value of its kind; other columns have a default
that also stands for values of another kind.
-/

namespace AudioLibrary.Row

/-- The error for a column without a usable value. -/
def missingColumn (column : String) : LibraryError :=
  .invalidInput column "missing column in result set"

/-- The value of a column as a reader sees it, or the error for the column. -/
def require {α : Type} (read : Value → Option α) (row : Row) (column : String) :
    Except LibraryError α :=
  match (row.get? column).bind read with
  | some a => .ok a
  | none => .error (missingColumn column)

/-- A text that must be there. -/
def requireText (row : Row) (column : String) : Except LibraryError String :=
  row.require Value.text? column

/-- An integer that must be there. -/
def requireInteger (row : Row) (column : String) : Except LibraryError Int64 :=
  row.require Value.integer? column

/-- A text or nothing; a value of another kind is an error. -/
def optionalText (row : Row) (column : String) : Except LibraryError (Option String) :=
  if (row.value column).isNull then .ok none else (row.requireText column).map some

/-- A text, empty if there is none. -/
def textOrEmpty (row : Row) (column : String) : String := (row.value column).text?.getD ""

/-- An integer, zero if there is none. -/
def integerOrZero (row : Row) (column : String) : Int64 := (row.value column).integer?.getD 0

end AudioLibrary.Row
