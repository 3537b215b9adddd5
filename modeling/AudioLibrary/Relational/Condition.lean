import AudioLibrary.Relational.Expr
import AudioLibrary.Relational.Stray

/-!
# Conditions of statements

A condition is true, false or unknown.  Comparing with nothing is unknown; a conjunction is false
as soon as one side is, a disjunction true as soon as one side is.

The type of the subselects that a condition may hold is a parameter `ρ`, so that the conditions
inside a subselect are conditions with no subselects, `Condition Empty`.
-/

namespace AudioLibrary.Relational

/-- True, false or unknown. -/
abbrev Truth := Option Bool

namespace Truth

def not : Truth → Truth := Option.map Bool.not

def and : Truth → Truth → Truth
  | some false, _ => some false
  | _, some false => some false
  | some true, some true => some true
  | _, _ => none

def or : Truth → Truth → Truth
  | some true, _ => some true
  | _, some true => some true
  | some false, some false => some false
  | _, _ => none

/-- Only what is true passes a filter. -/
def holds (t : Truth) : Bool := t == some true

/-- A truth value as a stored value. -/
def toValue : Truth → Value
  | some true => .integer 1
  | some false => .integer 0
  | none => .null

@[simp] theorem holds_and (s t : Truth) : (and s t).holds = (s.holds && t.holds) := by
  rcases s with _ | _ | _ <;> rcases t with _ | _ | _ <;> rfl

@[simp] theorem holds_or (s t : Truth) : (or s t).holds = (s.holds || t.holds) := by
  rcases s with _ | _ | _ <;> rcases t with _ | _ | _ <;> rfl

end Truth

/-- Whether two values are equal; unknown if one of them is nothing. -/
def equal (v w : Value) : Truth :=
  if v.isNull || w.isNull then none else some (v.same w)

/-- Whether a value is among others; unknown if a missing value might make it so. -/
def member (v : Value) (ws : List Value) : Truth :=
  ws.foldr (fun w t => (equal v w).or t) (some false)

inductive Condition (ρ : Type) where
  | equals (l r : Expr)
  | differs (l r : Expr)
  | isNull (e : Expr)
  | isNotNull (e : Expr)
  | like (e pattern : Expr)
  | among (e : Expr) (choices : List Argument)
  /-- A subselect gives a row. -/
  | nonempty (s : ρ)
  /-- A subselect gives the value. -/
  | within (e : Expr) (s : ρ)
  /-- A subselect does not give the value. -/
  | outside (e : Expr) (s : ρ)
  | both (l r : Condition ρ)
  | either (l r : Condition ρ)
  | group (c : Condition ρ)

namespace Condition

variable {ρ : Type}

/-- The disjunction of one or more conditions, in parentheses. -/
def anyOf (c : Condition ρ) (cs : List (Condition ρ)) : Condition ρ := .group (cs.foldl .either c)

/-- The conjunction of one or more conditions, in parentheses. -/
def allOf (c : Condition ρ) (cs : List (Condition ρ)) : Condition ρ := .group (cs.foldl .both c)

/-- The text before some rest, given that of the subselects. -/
def renderOnto (sub : ρ → Rendered) : Condition ρ → Rendered → Rendered
  | equals l r, rest => l.render ++ .text " = " :: (r.render ++ rest)
  | differs l r, rest => l.render ++ .text " != " :: (r.render ++ rest)
  | isNull e, rest => e.render ++ .text " IS NULL" :: rest
  | isNotNull e, rest => e.render ++ .text " IS NOT NULL" :: rest
  | like e pattern, rest =>
      e.render ++ .text " LIKE " :: (pattern.render ++ .text " ESCAPE '\\'" :: rest)
  | among e choices, rest =>
      e.render ++ .text " IN (" ::
        (Rendered.joined ", " (choices.map fun a => [.slot a]) ++ .text ")" :: rest)
  | nonempty s, rest => .text "EXISTS (" :: (sub s ++ .text ")" :: rest)
  | within e s, rest => e.render ++ .text " IN (" :: (sub s ++ .text ")" :: rest)
  | outside e s, rest => e.render ++ .text " NOT IN (" :: (sub s ++ .text ")" :: rest)
  | both l r, rest => l.renderOnto sub (.text " AND " :: r.renderOnto sub rest)
  | either l r, rest => l.renderOnto sub (.text " OR " :: r.renderOnto sub rest)
  | group c, rest => .text "(" :: c.renderOnto sub (.text ")" :: rest)

/-- The text, given that of the subselects. -/
def render (sub : ρ → Rendered) (c : Condition ρ) : Rendered := c.renderOnto sub []

theorem renderOnto_eq (sub : ρ → Rendered) (c : Condition ρ) (rest : Rendered) :
    c.renderOnto sub rest = c.render sub ++ rest := by
  unfold render
  induction c generalizing rest with
  | both l r ihl ihr => simp only [renderOnto]; rw [ihr, ihl, ihl (.text _ :: _)]; simp
  | either l r ihl ihr => simp only [renderOnto]; rw [ihr, ihl, ihl (.text _ :: _)]; simp
  | group c ih => simp only [renderOnto]; rw [ih, ih [_]]; simp
  | _ => simp [renderOnto]

@[simp] theorem render_both (sub : ρ → Rendered) (l r : Condition ρ) :
    (both l r).render sub = l.render sub ++ .text " AND " :: r.render sub := by
  rw [render, renderOnto, renderOnto_eq]
  rfl

@[simp] theorem render_either (sub : ρ → Rendered) (l r : Condition ρ) :
    (either l r).render sub = l.render sub ++ .text " OR " :: r.render sub := by
  rw [render, renderOnto, renderOnto_eq]
  rfl

@[simp] theorem render_group (sub : ρ → Rendered) (c : Condition ρ) :
    (group c).render sub = Rendered.parens (c.render sub) := by
  rw [render, renderOnto, renderOnto_eq, Rendered.parens]
  rfl

/-- Whether a value is like a pattern; unknown if one of them has no text. -/
def likeTruth (v pattern : Value) : Truth := do
  return Relational.like (← places? v) (← pattern.chars?)

/-- The truth value, given the values of the subselects. -/
def eval (sub : ρ → Scope → List Value) (scope : Scope) : Condition ρ → Truth
  | equals l r => equal (l.eval scope) (r.eval scope)
  | differs l r => (equal (l.eval scope) (r.eval scope)).not
  | isNull e => some (e.eval scope).isNull
  | isNotNull e => some !(e.eval scope).isNull
  | like e pattern => likeTruth (e.eval scope) (pattern.eval scope)
  | among e choices => member (e.eval scope) (choices.map Argument.toValue)
  | nonempty s => some !(sub s scope).isEmpty
  | within e s => member (e.eval scope) (sub s scope)
  | outside e s => (member (e.eval scope) (sub s scope)).not
  | both l r => (l.eval sub scope).and (r.eval sub scope)
  | either l r => (l.eval sub scope).or (r.eval sub scope)
  | group c => c.eval sub scope

/-- Whether all conditions of a list are true. -/
def allHold (sub : ρ → Scope → List Value) (scope : Scope) (cs : List (Condition ρ)) : Bool :=
  cs.all fun c => (c.eval sub scope).holds

end Condition

/-- A condition without subselects. -/
abbrev Plain := Condition Empty

namespace Plain

def render (c : Plain) : Rendered := Condition.render Empty.elim c

def eval (scope : Scope) (c : Plain) : Truth := Condition.eval Empty.elim scope c

def holds (scope : Scope) (c : Plain) : Bool := (c.eval scope).holds

end Plain

end AudioLibrary.Relational
