import AudioLibrary.Relational.Condition

/-!
# Statements

The statements that the library sends, as trees.  A `Source` is a relation with further tables
joined to it; a relation is a table, or derived from others: the `Branch`es of a `UNION ALL`.
A `Subselect` gives a list of values, a `Select` a list of rows.  A `Statement` is a select, the
number of rows of a statement, or a window of its rows.
-/

namespace AudioLibrary.Relational

/-- A table under an alias, or under its own name. -/
structure TableRef where
  name : String
  as : Option String := none
deriving DecidableEq, Repr

namespace TableRef

/-- The name that columns refer to. -/
def scopeName (t : TableRef) : String := t.as.getD t.name

def render (t : TableRef) : Rendered :=
  match t.as with
  | none => [.text t.name]
  | some as => [.text (t.name ++ " " ++ as)]

end TableRef

/-- A table joined to what stands before it. -/
structure Join where
  /-- Whether rows without a partner stay. -/
  outer : Bool := false
  table : TableRef
  on : Plain

def Join.render (j : Join) : Rendered :=
  .text (if j.outer then " LEFT JOIN " else " JOIN ") :: j.table.render ++ .text " ON " ::
    j.on.render

/-- What a source reads first: a table, or a derived relation under an alias. -/
inductive Relation (δ : Type) where
  | table (t : TableRef)
  | derived (d : δ) (as : String)

/-- A relation and the tables joined to it. -/
structure Source (δ : Type) where
  relation : Relation δ
  joins : List Join := []

namespace Source

variable {δ : Type}

/-- A table alone. -/
def ofTable (name : String) (as : Option String := none) : Source δ := ⟨.table ⟨name, as⟩, []⟩

def render (derived : δ → Rendered) (s : Source δ) : Rendered :=
  (match s.relation with
    | .table t => t.render
    | .derived d as => derived d ++ [.text (" " ++ as)]) ++ s.joins.flatMap Join.render

end Source

/-- A value with an optional name for it. -/
structure NamedExpr where
  expr : Expr
  as : Option String := none

namespace NamedExpr

/-- The name of the column that the value goes to. -/
def columnName (e : NamedExpr) : String :=
  e.as.getD (match e.expr with
    | .column _ name => name
    | _ => "")

def render (e : NamedExpr) : Rendered :=
  e.expr.render ++ match e.as with
    | none => []
    | some as => [.text (" AS " ++ as)]

end NamedExpr

/-- One part of a derived relation. -/
structure Branch where
  columns : List NamedExpr
  source : Source Empty

def Branch.render (b : Branch) : Rendered :=
  .text "SELECT " :: Rendered.joined ", " (b.columns.map NamedExpr.render) ++ .text " FROM " ::
    b.source.render Empty.elim

/-- The parts of a derived relation. -/
abbrev Union := List Branch

def Union.render (u : Union) : Rendered :=
  Rendered.parens (Rendered.joined " UNION ALL " (u.map Branch.render))

/-- The conditions after a source. -/
def renderWhere {ρ : Type} (sub : ρ → Rendered) (conditions : List (Condition ρ)) : Rendered :=
  match conditions with
  | [] => []
  | _ => .text " WHERE " :: Rendered.joined " AND " (conditions.map (Condition.render sub))

/-- Groups by a key, of which those stay that hold a given number of different values. -/
structure Grouping where
  key : Expr
  counted : Expr
  size : Argument

def Grouping.render (g : Grouping) : Rendered :=
  .text " GROUP BY " :: g.key.render ++ .text " HAVING COUNT(DISTINCT " :: g.counted.render ++
    [.text ") = ", .slot g.size]

/-- A select within a statement, of one value a row. -/
structure Subselect where
  item : Expr
  source : Source Union
  conditions : List Plain := []
  grouping : Option Grouping := none

namespace Subselect

/-- The text from the source on. -/
def renderTail (s : Subselect) : Rendered :=
  .text " FROM " :: s.source.render Union.render ++ renderWhere Empty.elim s.conditions ++
    match s.grouping with
    | none => []
    | some g => g.render

def render (s : Subselect) : Rendered := .text "SELECT " :: s.item.render ++ s.renderTail

/-- The text of the number of different values. -/
def renderCount (s : Subselect) : Rendered :=
  .text "(SELECT COUNT(DISTINCT " :: s.item.render ++ .text ")" :: s.renderTail ++ [.text ")"]

end Subselect

/-- A condition of a select. -/
abbrev Test := Condition Subselect

def Test.render (t : Test) : Rendered := Condition.render Subselect.render t

/-- A value of a select: an expression, a choice, a truth value, or a number of values. -/
inductive Term where
  | expr (e : Expr)
  | choose (c : Plain) (yes no : Expr)
  | truth (t : Test)
  | countDistinct (s : Subselect)

def Term.render : Term → Rendered
  | expr e => e.render
  | choose c yes no =>
      .text "CASE WHEN " :: c.render ++ .text " THEN " :: yes.render ++ .text " ELSE " ::
        no.render ++ [.text " END"]
  | truth t => t.render
  | countDistinct s => s.renderCount

/-- A column of a select, or all columns of a source. -/
inductive Item where
  | all (source : String)
  | one (t : Term) (as : Option String)

namespace Item

/-- The name of the column that a term goes to. -/
def columnName (t : Term) (as : Option String) : String :=
  as.getD (match t with
    | .expr (.column _ name) => name
    | _ => "")

def render : Item → Rendered
  | all source => [.text (source ++ ".*")]
  | one t none => t.render
  | one t (some as) => t.render ++ [.text (" AS " ++ as)]

end Item

inductive Direction where
  | ascending
  | descending
deriving DecidableEq, Repr

/-- One key of an order. -/
structure OrderKey where
  term : Term
  collation : Value.Collation := .binary
  /-- Ascending, if nothing is written. -/
  direction : Option Direction := none

def OrderKey.render (k : OrderKey) : Rendered :=
  k.term.render ++
    (match k.collation with
      | .binary => []
      | .noCase => [.text " COLLATE NOCASE"]) ++
    match k.direction with
    | none => []
    | some .ascending => [.text " ASC"]
    | some .descending => [.text " DESC"]

structure Select where
  distinct : Bool := false
  items : List Item
  source : Source Union
  /-- What an index orders by, if the rows are read from one. -/
  readBy : Option Expr := none
  conditions : List Test := []
  groupBy : Option Expr := none
  orderBy : List OrderKey := []

def Select.render (s : Select) : Rendered :=
  .text (if s.distinct then "SELECT DISTINCT " else "SELECT ") ::
    Rendered.joined ", " (s.items.map Item.render) ++ .text " FROM " ::
    s.source.render Union.render ++ renderWhere Subselect.render s.conditions ++
    (match s.groupBy with
      | none => []
      | some e => .text " GROUP BY " :: e.render) ++
    match s.orderBy with
    | [] => []
    | keys => .text " ORDER BY " :: Rendered.joined ", " (keys.map OrderKey.render)

inductive Statement where
  | select (s : Select)
  /-- The number of rows. -/
  | count (inner : Statement)
  /-- At most `limit` rows, from the first on. -/
  | firstRows (inner : Statement) (limit : UInt32)
  /-- At most `limit` rows after the first `offset`. -/
  | window (inner : Statement) (limit offset : UInt32)

namespace Statement

/-- The column that a number of rows goes to. -/
def countColumn : String := "count"

/-- A 32-bit word as an argument. -/
def wordArgument (w : UInt32) : Argument := .integer (.ofNat w.toNat)

def render : Statement → Rendered
  | select s => s.render
  | count inner =>
      .text ("SELECT COUNT(*) AS " ++ countColumn ++ " FROM (") :: inner.render ++
        [.text ") counted"]
  | firstRows inner limit => inner.render ++ [.text " LIMIT ", .slot (wordArgument limit)]
  | window inner limit offset =>
      inner.render ++ [.text " LIMIT ", .slot (wordArgument limit), .text " OFFSET ",
        .slot (wordArgument offset)]

/-- The text of a statement. -/
def sql (s : Statement) : String := s.render.sql

/-- The arguments of a statement in the order of their placeholders. -/
def arguments (s : Statement) : List Argument := s.render.arguments

/-- The arguments as stored values. -/
def parameters (s : Statement) : List Value := s.arguments.map Argument.toValue

end Statement

end AudioLibrary.Relational
