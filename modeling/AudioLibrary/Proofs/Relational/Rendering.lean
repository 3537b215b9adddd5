import AudioLibrary.Proofs.Relational.Placeholder

/-!
# Rendered text without its arguments

The text of a rendered statement does not depend on its arguments: `sql_blank`.  Whatever is
written around the arguments is kept by `blank`, which commutes with the ways in which texts are
put together, so that two statements are found to have one text part by part.
-/

namespace AudioLibrary.Relational

namespace Rendered

theorem chars_append (r s : Rendered) : chars (r ++ s) = chars r ++ chars s := by
  induction r with
  | nil => rfl
  | cons piece r ih =>
      cases piece with
      | text t => rw [List.cons_append, chars, chars, ih, List.append_assoc]
      | slot a => rw [List.cons_append, chars, chars, ih, List.cons_append]

/-- A piece of text as it is, a placeholder with an argument that says nothing. -/
def blankPiece : Piece → Piece
  | .text s => .text s
  | .slot _ => .slot (.integer 0)

/-- The same text with arguments that say nothing. -/
def blank (r : Rendered) : Rendered := r.map blankPiece

@[simp] theorem blank_nil : blank [] = [] := rfl

@[simp] theorem blank_append (r s : Rendered) : blank (r ++ s) = blank r ++ blank s :=
  List.map_append

@[simp] theorem blank_text (s : String) (r : Rendered) :
    blank (.text s :: r) = .text s :: blank r := rfl

@[simp] theorem blank_slot (a : Argument) (r : Rendered) :
    blank (.slot a :: r) = .slot (.integer 0) :: blank r := rfl

/-- **The text does not depend on the arguments.** -/
theorem sql_blank (r : Rendered) : r.blank.sql = r.sql := by
  unfold sql blank
  rw [List.flatMap_map]
  congr 2
  funext piece
  cases piece <;> rfl

theorem sql_eq_of_blank_eq {r s : Rendered} (h : r.blank = s.blank) : r.sql = s.sql := by
  rw [← sql_blank r, h, sql_blank]

@[simp] theorem blank_parens (r : Rendered) : r.parens.blank = r.blank.parens := by
  simp [parens]

theorem blank_joined (separator : String) (parts : List Rendered) :
    (joined separator parts).blank = joined separator (parts.map blank) := by
  induction parts with
  | nil => rfl
  | cons part parts ih =>
      cases parts with
      | nil => rfl
      | cons next parts =>
          have hjoined : joined separator (part :: next :: parts) =
              part ++ .text separator :: joined separator (next :: parts) := rfl
          rw [hjoined, blank_append, blank_text, ih]
          rfl

/-- Parts that are blank alike are joined alike. -/
theorem blank_joined_congr {α β : Type} (separator : String) {f : α → Rendered} {g : β → Rendered}
    {items : List α} {others : List β}
    (h : items.map (fun item => (f item).blank) = others.map fun other => (g other).blank) :
    (joined separator (items.map f)).blank = (joined separator (others.map g)).blank := by
  rw [blank_joined, blank_joined, List.map_map, List.map_map]
  exact congrArg (joined separator) h

end Rendered

namespace Condition

variable {ρ : Type} {sub : ρ → Rendered}

theorem render_like (e : Expr) (pattern : Argument) :
    (like e (.argument pattern) : Condition ρ).render sub =
      e.render ++ [.text " LIKE ", .slot pattern, .text " ESCAPE '\\'"] := by
  simp [render, renderOnto, Expr.render]

theorem render_foldl_either (c : Condition ρ) (cs : List (Condition ρ)) :
    (cs.foldl either c).render sub = Rendered.joined " OR " ((c :: cs).map (render sub)) := by
  induction cs generalizing c with
  | nil => rfl
  | cons d cs ih =>
      rw [List.foldl_cons, ih]
      cases cs with
      | nil => exact render_either sub c d
      | cons e cs =>
          simp only [List.map_cons, Rendered.joined, render_either]
          rw [List.append_assoc, List.cons_append]

/-- A disjunction is its parts with a word between them, in parentheses. -/
theorem render_anyOf (c : Condition ρ) (cs : List (Condition ρ)) :
    (anyOf c cs).render sub =
      (Rendered.joined " OR " ((c :: cs).map (render sub))).parens := by
  rw [anyOf, render_group, render_foldl_either]

end Condition

namespace Select

/-- The groups of a select, if there are any. -/
def renderGroupBy : Option Expr → Rendered
  | none => []
  | some e => .text " GROUP BY " :: e.render

/-- The order of a select, if there is one. -/
def renderOrderBy : List OrderKey → Rendered
  | [] => []
  | keys => .text " ORDER BY " :: Rendered.joined ", " (keys.map OrderKey.render)

theorem render_eq (s : Select) :
    s.render =
      .text (if s.distinct then "SELECT DISTINCT " else "SELECT ") ::
        Rendered.joined ", " (s.items.map Item.render) ++
        .text " FROM " :: s.source.render Union.render ++
        renderWhere Subselect.render s.conditions ++ renderGroupBy s.groupBy ++
        renderOrderBy s.orderBy := rfl

end Select

end AudioLibrary.Relational
