import AudioLibrary.Text.Collation

/-!
# Names in statements

A host names tables and columns in statements that change them, where every name stands as it is.
A name must therefore be there, must not begin with a digit, and must not be a word that statements
keep for themselves.  Letter case counts neither in names nor in such words.
-/

namespace AudioLibrary

/-- Whether two names of tables or columns are the same; letter case does not count. -/
def sameName (a b : String) : Bool := Text.foldCase a.toList == Text.foldCase b.toList

/-- The words that name nothing. -/
def reservedWords : List String :=
  ["add", "all", "alter", "and", "as", "autoincrement", "between", "case", "check", "collate",
    "commit", "constraint", "create", "default", "deferrable", "delete", "distinct", "drop", "else",
    "escape", "except", "exists", "foreign", "from", "group", "having", "in", "index", "insert",
    "intersect", "into", "is", "isnull", "join", "limit", "not", "nothing", "notnull", "null", "on",
    "or", "order", "primary", "references", "returning", "select", "set", "table", "then", "to",
    "transaction", "union", "unique", "update", "using", "values", "when", "where"]

/-- Whether a word reads as a number: in base sixteen, or as digits that an exponent may follow.
Underscores may stand among the digits. -/
def isNumeral (word : List Char) : Bool :=
  let isDigit := fun c : Char => c.isDigit || c = '_'
  let isHexDigit := fun c : Char => c.isDigit || 'a' ≤ c.toLower && c.toLower ≤ 'f'
  match word with
  | '0' :: 'x' :: c :: cs | '0' :: 'X' :: c :: cs =>
      isHexDigit c && cs.all fun c => isHexDigit c || c = '_'
  | _ =>
      match word.dropWhile isDigit with
      | [] => true
      | c :: d :: cs => c.toLower = 'e' && d.isDigit && cs.all isDigit
      | _ => false

/-- Why a statement cannot be read. -/
inductive Misreading where
  /-- A word stands where another must stand. -/
  | misplaced (word : String)
  /-- What stands there is no word. -/
  | unknown (text : String)
deriving DecidableEq, Repr

/-- A name together with what a statement has after it. -/
structure NamePlace where
  name : String
  next : String
deriving DecidableEq, Repr

namespace NamePlace

/-- Why a name cannot be read, if it cannot; of a name that is empty, what follows is misplaced. -/
def misreading? (p : NamePlace) : Option Misreading :=
  match p.name.toList with
  | [] => some (.misplaced p.next)
  | c :: cs =>
      if c.isDigit then
        some (if isNumeral (c :: cs) then .misplaced p.name else .unknown p.name)
      else if reservedWords.any (sameName p.name) then some (.misplaced p.name)
      else none

/-- Names separated by commas and what follows the last of them. -/
def listed (last : String) : List String → List NamePlace
  | [] => []
  | [name] => [⟨name, last⟩]
  | name :: names => ⟨name, ","⟩ :: listed last names

theorem map_name_listed (last : String) (names : List String) :
    (listed last names).map name = names := by
  fun_induction listed last names with
  | case1 => rfl
  | case2 => rfl
  | case3 name names _ ih => simp [ih]

end NamePlace

end AudioLibrary
