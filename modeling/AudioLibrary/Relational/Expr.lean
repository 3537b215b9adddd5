import AudioLibrary.Relational.Like
import AudioLibrary.Relational.Replace
import AudioLibrary.Relational.Value

/-!
# Expressions of statements

An expression computes a value from the rows in scope.  Arguments are part of the tree: `render`
gives the text with a placeholder for each argument and, in the same traversal, the arguments in
the order of their placeholders, so the two cannot fall out of step.

`eval` is the meaning of an expression.  Every function of nothing is nothing, `ifNull` excepted.
-/

namespace AudioLibrary.Relational

/-! ## Rendered text -/

/-- A value for a placeholder. -/
inductive Argument where
  | integer (i : Int64)
  | text (s : String)
deriving DecidableEq, Repr

def Argument.toValue : Argument → Value
  | integer i => .integer i
  | text s => .text s

/-- A piece of a rendered statement: text, or a placeholder with its argument. -/
inductive Piece where
  | text (s : String)
  | slot (a : Argument)
deriving DecidableEq, Repr

abbrev Rendered := List Piece

namespace Rendered

/-- The statement's text; every placeholder is a question mark. -/
def sql (r : Rendered) : String :=
  String.ofList (r.flatMap fun
    | .text s => s.toList
    | .slot _ => ['?'])

/-- The arguments in the order of their placeholders. -/
def arguments (r : Rendered) : List Argument :=
  r.filterMap fun
    | .text _ => none
    | .slot a => some a

/-- Parts with a text between them. -/
def joined (separator : String) : List Rendered → Rendered
  | [] => []
  | [part] => part
  | part :: parts => part ++ .text separator :: joined separator parts

/-- A part in parentheses. -/
def parens (r : Rendered) : Rendered := .text "(" :: r ++ [.text ")"]

@[simp] theorem arguments_append (r s : Rendered) :
    arguments (r ++ s) = arguments r ++ arguments s :=
  List.filterMap_append

@[simp] theorem arguments_nil : arguments [] = [] := rfl

@[simp] theorem arguments_text (s : String) (r : Rendered) :
    arguments (.text s :: r) = arguments r := rfl

@[simp] theorem arguments_slot (a : Argument) (r : Rendered) :
    arguments (.slot a :: r) = a :: arguments r := rfl

end Rendered

/-! ## Scopes -/

/-- The rows in scope by the names of their sources, innermost first. -/
abbrev Scope := List (String × Row)

/-- The value of a column; without a source, of the first row that has it. -/
def Scope.value (scope : Scope) (source : Option String) (column : String) : Value :=
  match source with
  | some name => ((scope.lookup name).map (Row.value · column)).getD .null
  | none => (scope.findSome? fun entry => entry.2.get? column).getD .null

/-! ## Expressions -/

inductive Expr where
  /-- A column of a source, or of whatever row in scope has it. -/
  | column (source : Option String) (name : String)
  | argument (a : Argument)
  | number (n : Nat)
  | literal (s : String)
  /-- The character with a number. -/
  | char (n : Nat)
  | ifNull (e otherwise : Expr)
  | replace (e old new : Expr)
  | lower (e : Expr)
  | concat (l r : Expr)
  | group (e : Expr)
deriving DecidableEq, Repr

namespace Expr

/-- A column of a named source. -/
def col (source name : String) : Expr := .column (some source) name

/-- A text between apostrophes; an apostrophe within is written twice. -/
def quoteLiteral (s : String) : String :=
  String.ofList
    ('\'' :: s.toList.flatMap (fun c => if c = '\'' then ['\'', '\''] else [c]) ++ ['\''])

def render : Expr → Rendered
  | column (some source) name => [.text (source ++ "." ++ name)]
  | column none name => [.text name]
  | argument a => [.slot a]
  | number n => [.text (toString n)]
  | literal s => [.text (quoteLiteral s)]
  | char n => [.text ("char(" ++ toString n ++ ")")]
  | ifNull e otherwise =>
      .text "IFNULL(" :: e.render ++ .text ", " :: otherwise.render ++ [.text ")"]
  | replace e old new =>
      .text "REPLACE(" :: e.render ++ .text ", " :: old.render ++ .text ", " :: new.render ++
        [.text ")"]
  | lower e => .text "LOWER(" :: e.render ++ [.text ")"]
  | concat l r => l.render ++ .text " || " :: r.render
  | group e => Rendered.parens e.render

/-- A byte as the character with its number. -/
def byteChar (b : UInt8) : Char := Char.ofNat b.toNat

/-- A text made from the texts of values; nothing if one of them has none.  If bytes are among the
values, all are taken byte by byte. -/
def onTexts (f : List (List Char) → List Char) (vs : List Value) : Value :=
  match vs.mapM Value.chars? with
  | some texts => .text (String.ofList (f texts))
  | none =>
      match vs.mapM Value.bytes? with
      | some texts => .ofBytes ((f (texts.map (List.map byteChar))).map fun c => c.toNat.toUInt8)
      | none => .null

def eval (scope : Scope) : Expr → Value
  | column source name => scope.value source name
  | argument a => a.toValue
  | number n => .integer (.ofNat n)
  | literal s => .text s
  | char n => .text (String.singleton (Char.ofNat n))
  | ifNull e otherwise => if (e.eval scope).isNull then otherwise.eval scope else e.eval scope
  | replace e old new =>
      onTexts
        (fun
          | [text, old, new] => replaceAll old new text
          | _ => [])
        [e.eval scope, old.eval scope, new.eval scope]
  | lower e =>
      onTexts
        (fun
          | [text] => Text.foldCase text
          | _ => [])
        [e.eval scope]
  | concat l r => onTexts List.flatten [l.eval scope, r.eval scope]
  | group e => e.eval scope

end Expr

end AudioLibrary.Relational
