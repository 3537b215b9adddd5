import AudioLibrary.Relational.Eval

/-!
# What the store refuses to run

A statement is refused if it has too many placeholders or if an expression of it is nested too
deeply.  It is read from left to right, and the first of the two that is met decides.  Once it is
read, the expressions of a subselect count from the depth of the expression that holds it.

A statement that is accepted still fails when a row is compared with a pattern that is too long.
-/

namespace AudioLibrary.Relational

/-- Why a statement is refused. -/
inductive Refusal where
  | tooDeep
  | tooManyArguments
  | patternTooLong
deriving DecidableEq, Repr

/-! ## Bounds -/

/-- How deep an expression may be. -/
def maxDepth : Nat := 1000

/-- How many placeholders a statement may have. -/
def maxArguments : Nat := 32766

/-- How many bytes a pattern may have. -/
def maxPatternSize : Nat := 50000

def Refusal.message : Refusal → String
  | tooDeep => "Expression tree is too large (maximum depth " ++ toString maxDepth ++ ")"
  | tooManyArguments => "too many SQL variables"
  | patternTooLong => "LIKE or GLOB pattern too complex"

/-! ## Extents -/

/-- How far an expression extends. -/
structure Extent where
  /-- The height of its tree. -/
  height : Nat := 0
  /-- How deep the expressions of its subselects are, counted from their own roots. -/
  inner : Nat := 0
deriving DecidableEq, Repr

namespace Extent

/-- How deep an expression is together with its subselects. -/
def depth (x : Extent) : Nat := x.height + x.inner

/-- The extent of a list of expressions. -/
def join (xs : List Extent) : Extent :=
  xs.foldl (fun x y => ⟨max x.height y.height, max x.inner y.inner⟩) {}

/-- The extent of an expression with these parts. -/
def above (xs : List Extent) : Extent := { join xs with height := (join xs).height + 1 }

/-- The extent of an expression without parts. -/
def leaf : Extent := ⟨1, 0⟩

/-- The depth of the deepest of some expressions. -/
def deepest (xs : List Extent) : Nat := (xs.map depth).foldl max 0

end Extent

/-! ## Reading -/

/-- Reading counts the placeholders that have been met. -/
abbrev Reading := StateT Nat (Except Refusal)

namespace Reading

/-- A placeholder. -/
def slot : Reading Extent := do
  let n ← get
  if maxArguments ≤ n then
    throw .tooManyArguments
  set (n + 1)
  return .leaf

/-- An expression with these parts. -/
def node (parts : List Extent) : Reading Extent := do
  let x := Extent.above parts
  if maxDepth < x.height then
    throw .tooDeep
  return x

end Reading

open Reading

def Expr.read : Expr → Reading Extent
  | column (some _) _ => node [.leaf, .leaf]
  | column none _ | number _ | literal _ => return .leaf
  | argument _ => slot
  | char _ => node [.leaf]
  | ifNull e otherwise => do node [← e.read, ← otherwise.read]
  | replace e old new => do node [← e.read, ← old.read, ← new.read]
  | lower e => do node [← e.read]
  | concat l r => do node [← l.read, ← r.read]
  | group e => e.read

namespace Condition

variable {ρ : Type}

def read (sub : ρ → Reading Extent) : Condition ρ → Reading Extent
  | equals l r | differs l r => do node [← l.read, ← r.read]
  | isNull e | isNotNull e => do node [← e.read, .leaf]
  -- the mark that makes characters literal is a part as well
  | like e pattern => do node [← e.read, ← pattern.read, .leaf]
  | among e choices => do node ((← e.read) :: (← choices.mapM fun _ => slot))
  | nonempty s => do node [← sub s]
  | within e s => do node [← e.read, ← sub s]
  | outside e s => do node [← node [← e.read, ← sub s]]
  | both l r | either l r => do node [← l.read sub, ← r.read sub]
  | group c => c.read sub

/-- Reads the conditions after a source, one conjunction of them all. -/
def readAll (sub : ρ → Reading Extent) : List (Condition ρ) → Reading (Option Extent)
  | [] => return none
  | c :: cs => do
      let first ← c.read sub
      some <$> cs.foldlM (fun x c => do node [x, ← c.read sub]) first

end Condition

/-- Reads a condition without subselects. -/
def Plain.read (c : Plain) : Reading Extent := Condition.read Empty.elim c

namespace Source

variable {δ : Type}

/-- Reads a source: how deep its derived relation is, and the conditions of its joins. -/
def read (derived : δ → Reading Nat) (s : Source δ) : Reading (Nat × List Extent) := do
  let depth ← match s.relation with
    | .table _ => pure 0
    | .derived d _ => derived d
  return (depth, ← s.joins.mapM fun j => j.on.read)

end Source

/-- A condition together with the conditions of joins, which are appended to it. -/
def withJoins (condition : Option Extent) (joins : List Extent) : Option Extent :=
  (condition.toList ++ joins).foldl
    (fun x y => some (match x with
      | none => y
      | some x => .above [x, y])) none

/-- How deep the expressions of a select are. -/
def depthOf (items : List Extent) (source : Nat × List Extent) (condition : Option Extent) : Nat :=
  max source.1 (Extent.deepest (items ++ (withJoins condition source.2).toList))

/-- Reads one part of a derived relation and says how deep it is. -/
def Branch.read (b : Branch) : Reading Nat := do
  let items ← b.columns.mapM fun c => c.expr.read
  return depthOf items (← b.source.read Empty.elim) none

def Union.read (u : Union) : Reading Nat := return (← u.mapM Branch.read).foldl max 0

/-- Reads what groups are kept by. -/
def Grouping.read (g : Grouping) : Reading (List Extent) := do
  let key ← g.key.read
  return [key, ← node [← node [← g.counted.read], ← slot]]

/-- Reads a subselect of the given item and says how far it extends as a part of an expression. -/
def Subselect.readWith (s : Subselect) (item : Reading Extent) : Reading Extent := do
  let item ← item
  let source ← s.source.read Union.read
  let condition ← Condition.readAll Empty.elim s.conditions
  let grouping ← match s.grouping with
    | none => pure []
    | some g => g.read
  let expressions := item :: grouping
  return {
    height := (Extent.join (expressions ++ condition.toList)).height
    inner := depthOf expressions source condition }

def Subselect.read (s : Subselect) : Reading Extent := s.readWith s.item.read

/-- Reads the number of different values of a subselect. -/
def Subselect.readCount (s : Subselect) : Reading Extent := do
  node [← s.readWith do node [← s.item.read]]

def Test.read (t : Test) : Reading Extent := Condition.read Subselect.read t

def Term.read : Term → Reading Extent
  | expr e => e.read
  | choose c yes no => do node [← c.read, ← yes.read, ← no.read]
  | truth t => t.read
  | countDistinct s => s.readCount

def Item.read : Item → Reading Extent
  | all _ => return .leaf
  | one t _ => t.read

def OrderKey.read (k : OrderKey) : Reading Extent := do
  match k.collation with
  | .binary => k.term.read
  | .noCase => node [← k.term.read]

/-- Reads a select and says how deep it is. -/
def Select.read (s : Select) : Reading Nat := do
  let items ← s.items.mapM Item.read
  let source ← s.source.read Union.read
  let condition ← Condition.readAll Subselect.read s.conditions
  let groups ← s.groupBy.toList.mapM Expr.read
  let order ← s.orderBy.mapM OrderKey.read
  return depthOf (items ++ groups ++ order) source condition

/-- Reads a statement and says how deep it is. -/
def Statement.read : Statement → Reading Nat
  | select s => s.read
  | count inner => inner.read
  | firstRows inner _ => do
      let depth ← inner.read
      let _ ← slot
      return depth
  | window inner _ _ => do
      let depth ← inner.read
      let _ ← slot
      let _ ← slot
      return depth

/-! ## Patterns -/

/-- Whether a pattern is too long. -/
def isLongPattern (v : Value) : Bool :=
  v.bytes?.any fun bytes => maxPatternSize < bytes.length

/-- Whether a condition cannot be evaluated because it comes to a pattern that is too long.  What
stands after an alternative that holds is not evaluated, nor after a part that does not.  The
patterns of subselects stand before them as well. -/
def Condition.meetsLongPattern {ρ : Type} (sub : ρ → Scope → List Value) (scope : Scope) :
    Condition ρ → Bool
  | like _ pattern => isLongPattern (pattern.eval scope)
  | both l r =>
      l.meetsLongPattern sub scope ||
        (r.meetsLongPattern sub scope && l.eval sub scope != some false)
  | either l r =>
      l.meetsLongPattern sub scope ||
        (r.meetsLongPattern sub scope && l.eval sub scope != some true)
  | group c => c.meetsLongPattern sub scope
  | _ => false

/-- Whether a condition looks for rows elsewhere. -/
def Condition.isCorrelated {ρ : Type} : Condition ρ → Bool
  | nonempty _ => true
  | both l r | either l r => l.isCorrelated || r.isCorrelated
  | group c => c.isCorrelated
  | _ => false

/-- Whether a condition picks rows by a list of values. -/
def Condition.picksRows {ρ : Type} : Condition ρ → Bool
  | within .. | among .. => true
  | _ => false

/-- Conditions in the order in which rows are tried by them: first those that pick rows, last those
that look for rows elsewhere. -/
def trialOrder {ρ : Type} (cs : List (Condition ρ)) : List (Condition ρ) :=
  let (picking, others) := cs.partition Condition.picksRows
  let (correlated, plain) := others.partition Condition.isCorrelated
  picking ++ plain ++ correlated

/-- Whether trying a row by conditions comes to a pattern that is too long. -/
def meetsLongPattern {ρ : Type} (sub : ρ → Scope → List Value) (scope : Scope) :
    List (Condition ρ) → Bool
  | [] => false
  | c :: cs =>
      c.meetsLongPattern sub scope || ((c.eval sub scope).holds && meetsLongPattern sub scope cs)

def Select.meetsLongPattern (tables : Tables) (s : Select) : Bool :=
  (s.source.scopes tables (Union.rows tables) []).any fun scope =>
    Relational.meetsLongPattern (Subselect.values tables) scope (trialOrder s.conditions)

def Statement.meetsLongPattern (tables : Tables) : Statement → Bool
  | select s => s.meetsLongPattern tables
  | count inner | firstRows inner _ | window inner _ _ => inner.meetsLongPattern tables

/-! ## Statements -/

/-- Whether a statement can be read. -/
def Statement.check (s : Statement) : Except Refusal Unit := do
  let (depth, _) ← s.read.run 0
  if maxDepth < depth then
    throw .tooDeep

/-- The rows that a statement gives, unless it is refused. -/
def Statement.run (tables : Tables) (s : Statement) : Except Refusal (List Row) := do
  s.check
  -- no row has to be tried if no pattern is too long
  if s.parameters.any isLongPattern && s.meetsLongPattern tables then
    throw .patternTooLong
  return s.rows tables

end AudioLibrary.Relational
