import AudioLibrary.Relational.Select

/-!
# The meaning of statements

A statement is evaluated over the rows of tables.  Each part of a statement has a function of its
own, from the source, which gives the scopes to select from, to the statement, which gives rows.
-/

namespace AudioLibrary.Relational

/-- The rows of each table, in the order in which the store keeps them. -/
abbrev Tables := String → List Row

/-! ## Sources -/

/-- Joins a table to a scope. -/
def Join.extend (tables : Tables) (j : Join) (scope : Scope) : List Scope :=
  let found := ((tables j.table.name).map fun row => (j.table.scopeName, row) :: scope).filter
    fun s => j.on.holds s
  -- a row without columns has nothing in each of them
  if j.outer && found.isEmpty then [(j.table.scopeName, []) :: scope] else found

namespace Source

variable {δ : Type}

/-- The name and the rows of the first relation. -/
def firstRows (tables : Tables) (derived : δ → List Row) (s : Source δ) : String × List Row :=
  match s.relation with
  | .table t => (t.scopeName, tables t.name)
  | .derived d as => (as, derived d)

/-- The scopes that a source gives, each within an outer one. -/
def scopes (tables : Tables) (derived : δ → List Row) (outer : Scope) (s : Source δ) :
    List Scope :=
  let (name, rows) := s.firstRows tables derived
  s.joins.foldl (fun scopes j => scopes.flatMap (j.extend tables))
    (rows.map fun row => (name, row) :: outer)

end Source

def Branch.rows (tables : Tables) (b : Branch) : List Row :=
  (b.source.scopes tables Empty.elim []).map fun scope =>
    b.columns.map fun c => (c.columnName, c.expr.eval scope)

def Union.rows (tables : Tables) (u : Union) : List Row := u.flatMap (Branch.rows tables)

/-! ## Values -/

/-- The values without the later ones of those that are the same. -/
def distinctValues (vs : List Value) : List Value := vs.eraseDupsBy Value.same

/-- The number of different values; nothing is not counted. -/
def countDistinct (vs : List Value) : Nat := (distinctValues (vs.filter fun v => !v.isNull)).length

namespace Subselect

/-- The scopes that the source gives and the conditions let pass. -/
def scopes (tables : Tables) (s : Subselect) (outer : Scope) : List Scope :=
  (s.source.scopes tables (Union.rows tables) outer).filter fun scope =>
    Condition.allHold Empty.elim scope s.conditions

/-- The values of a subselect within an outer scope; of groups, the values of their first rows. -/
def values (tables : Tables) (s : Subselect) (outer : Scope) : List Value :=
  let scopes := s.scopes tables outer
  match s.grouping with
  | none => scopes.map fun scope => s.item.eval scope
  | some g =>
      (distinctValues (scopes.map fun scope => g.key.eval scope)).filterMap fun key =>
        let members := scopes.filter fun scope => (g.key.eval scope).same key
        let size := countDistinct (members.map fun scope => g.counted.eval scope)
        if (equal (.integer (.ofNat size)) g.size.toValue).holds then
          members.head?.map fun scope => s.item.eval scope
        else none

end Subselect

def Test.eval (tables : Tables) (scope : Scope) (t : Test) : Truth :=
  Condition.eval (Subselect.values tables) scope t

def Term.eval (tables : Tables) (scope : Scope) : Term → Value
  | expr e => e.eval scope
  | choose c yes no => if c.holds scope then yes.eval scope else no.eval scope
  | truth t => (t.eval tables scope).toValue
  | countDistinct s =>
      .integer (.ofNat (Relational.countDistinct ((s.scopes tables scope).map fun inner =>
        s.item.eval inner)))

def Item.eval (tables : Tables) (scope : Scope) : Item → Row
  | all source => (scope.lookup source).getD []
  | one t as => [(columnName t as, t.eval tables scope)]

/-! ## Order -/

/-- The order of two values under one key. -/
def OrderKey.compare (k : OrderKey) (v w : Value) : Ordering :=
  match k.direction with
  | some .descending => Value.compareBy k.collation w v
  | _ => Value.compareBy k.collation v w

/-- The order of two lists of key values: the first key that tells them apart decides. -/
def compareKeys : List OrderKey → List Value → List Value → Ordering
  | k :: ks, v :: vs, w :: ws => (k.compare v w).then (compareKeys ks vs ws)
  | _, _, _ => .eq

/-! ## Statements -/

namespace Select

/-- The scopes that the source gives, in the order in which they are read. -/
def sourceScopes (tables : Tables) (s : Select) : List Scope :=
  let scopes := s.source.scopes tables (Union.rows tables) []
  match s.readBy with
  | none => scopes
  | some e => scopes.mergeSort fun a b => Value.compareBy .binary (e.eval a) (e.eval b) != .gt

/-- The scopes that are selected, one for each group if there are groups. -/
def scopes (tables : Tables) (s : Select) : List Scope :=
  let passed := (s.sourceScopes tables).filter fun scope =>
    Condition.allHold (Subselect.values tables) scope s.conditions
  match s.groupBy with
  | none => passed
  | some e => passed.eraseDupsBy fun a b => (e.eval a).same (e.eval b)

/-- The row for a scope. -/
def project (tables : Tables) (s : Select) (scope : Scope) : Row :=
  s.items.flatMap fun item => item.eval tables scope

/-- The values of the order keys, which may also refer to the columns of the row. -/
def keyValues (tables : Tables) (s : Select) (scope : Scope) (row : Row) : List Value :=
  s.orderBy.map fun k => k.term.eval tables (("", row) :: scope)

/-- Whether two rows have the same values. -/
def sameRow (r r' : Row) : Bool :=
  r.length == r'.length && (r.zip r').all fun (a, b) => a.2.same b.2

def rows (tables : Tables) (s : Select) : List Row :=
  let selected := (s.scopes tables).map fun scope =>
    let row := s.project tables scope
    (s.keyValues tables scope row, row)
  -- the sort is stable, so rows that agree in all keys stay in the order of the source
  let kept := if s.distinct then selected.eraseDupsBy fun a b => sameRow a.2 b.2 else selected
  (kept.mergeSort fun a b => compareKeys s.orderBy a.1 b.1 != .gt).map Prod.snd

end Select

/-- The rows that a statement gives. -/
def Statement.rows (tables : Tables) : Statement → List Row
  | select s => s.rows tables
  | count inner => [[(countColumn, .integer (.ofNat (inner.rows tables).length))]]
  | firstRows inner limit => (inner.rows tables).take limit.toNat
  | window inner limit offset => ((inner.rows tables).drop offset.toNat).take limit.toNat

end AudioLibrary.Relational
