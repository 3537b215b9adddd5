import AudioLibrary.Proofs.Query.Bindings

/-!
# The skeleton of a filter

The `Skeleton` of a filter keeps which parts there are and how many values each of them has, and
forgets the values.  `Skeleton.query` is a query made from a skeleton alone: it has an empty text
for every text and zero for every number.

A filter's query has the text of its skeleton's query, `sql_wrapped`.  So filters with one skeleton
have one text, whatever was typed into them, whichever album is asked for and wherever the windows
are cut, and nothing that was typed is a part of it: `sql_eq_of_skeleton_eq`.
-/

namespace AudioLibrary

open AudioLibrary.Relational

/-! ## Without values -/

namespace Predicate

/-- The predicate with an empty text for every text and zero for every number. -/
def blank : Predicate → Predicate
  | ofAlbum _ => ofAlbum ⟨0⟩
  | textMatch _ columns tags => textMatch "" columns tags
  | allTags tags ids => allTags tags (ids.map fun _ => ⟨0⟩)
  | noTag tags ids => noTag tags (ids.map fun _ => ⟨0⟩)
  | anyActor _ others => anyActor "" (others.map fun _ => "")
  | anyCircle circles => anyCircle (circles.map fun _ => "")
  | fromSource source => fromSource source

/-- Of a list of arguments the text shows the length alone. -/
theorem blank_slots (choices others : List Argument) (h : choices.length = others.length) :
    (Rendered.joined ", " (choices.map fun a => [.slot a])).blank =
      (Rendered.joined ", " (others.map fun a => [.slot a])).blank := by
  apply Rendered.blank_joined_congr
  show choices.map (fun _ => [Piece.slot (.integer 0)]) = others.map fun _ => [.slot (.integer 0)]
  rw [List.map_const', List.map_const', h]

theorem blank_blank (p : Predicate) : p.blank.blank = p.blank := by
  cases p <;> simp [blank]

theorem blank_render_like (e : Expr) (pattern other : Argument) :
    (Test.render (.like e (.argument pattern))).blank =
      (Test.render (.like e (.argument other))).blank := by
  unfold Test.render
  rw [Condition.render_like, Condition.render_like]
  simp

theorem blank_render_taggedLike (tags : TagScope) (pattern other : Argument) :
    (taggedLike tags pattern).render.blank = (taggedLike tags other).render.blank := by
  simp [taggedLike, Test.render, Condition.render, Condition.renderOnto, Subselect.render,
    Subselect.renderTail, renderWhere, Rendered.joined, Expr.render]

/-- Disjunctions of parts that are blank alike are blank alike. -/
theorem blank_render_anyOf {t u : Test} {ts us : List Test}
    (h : (t :: ts).map (fun t => t.render.blank) = (u :: us).map fun u => u.render.blank) :
    (Test.render (.anyOf t ts)).blank = (Test.render (.anyOf u us)).blank := by
  unfold Test.render at h ⊢
  rw [Condition.render_anyOf, Condition.render_anyOf, Rendered.blank_parens,
    Rendered.blank_parens, Rendered.blank_joined_congr " OR " h]

theorem blank_render_textMatch (text : String) (columns : List Expr) (tags : TagScope) :
    (textMatch text columns tags).condition.render.blank =
      (textMatch "" columns tags).condition.render.blank := by
  have htagged := blank_render_taggedLike tags (containing text) (containing "")
  cases columns with
  | nil =>
      unfold condition Test.render
      rw [Condition.render_group, Condition.render_group, Rendered.blank_parens,
        Rendered.blank_parens]
      exact congrArg Rendered.parens htagged
  | cons first others =>
      refine blank_render_anyOf ?_
      have hcolumns : ∀ column ∈ first :: others,
          (Test.render (.like column (.argument (containing text)))).blank =
            (Test.render (.like column (.argument (containing "")))).blank :=
        fun column _ => blank_render_like column _ _
      have hmap := List.map_congr_left hcolumns
      simp only [List.map_cons, List.cons.injEq] at hmap
      simp only [List.map_cons, List.map_append, List.map_map, List.map_nil, htagged, hmap.1]
      exact congrArg (_ :: · ++ _) hmap.2

theorem blank_render_anyActor (key : String) (others : List String) :
    (anyActor key others).condition.render.blank =
      (anyActor "" (others.map fun _ => "")).condition.render.blank := by
  refine blank_render_anyOf ?_
  have hlike := fun key : String =>
    blank_render_like (creditField (.col "a" "cv")) (listing key) (listing "")
  simp only [List.map_cons, List.map_map, hlike key]
  exact congrArg (_ :: ·) (List.map_congr_left fun other _ => hlike other)

/-- **No value of a predicate is a part of its text.** -/
theorem blank_render_condition (p : Predicate) :
    p.condition.render.blank = p.blank.condition.render.blank := by
  cases p with
  | ofAlbum id => rfl
  | textMatch text columns tags => exact blank_render_textMatch text columns tags
  | allTags tags ids =>
      have hslots := blank_slots (ids.map fun id => .integer id.value)
        ((ids.map fun _ => (⟨0⟩ : TagId)).map fun id => .integer id.value) (by simp)
      rw [blank, render_allTags, render_allTags]
      simp only [Rendered.blank_append, Rendered.blank_slot, Rendered.blank_nil, hslots]
  | noTag tags ids =>
      have hslots := blank_slots (ids.map fun id => .integer id.value)
        ((ids.map fun _ => (⟨0⟩ : TagId)).map fun id => .integer id.value) (by simp)
      rw [blank, render_noTag, render_noTag]
      simp only [Rendered.blank_append, hslots]
  | anyActor key others => exact blank_render_anyActor key others
  | anyCircle circles =>
      have hslots := blank_slots (circles.map .text)
        ((circles.map fun _ => "").map .text) (by simp)
      rw [blank, render_anyCircle, render_anyCircle]
      simp only [Rendered.blank_append, hslots]
  | fromSource source => rfl

end Predicate

/-- The shape for no album in particular. -/
def Shape.blank : Shape → Shape
  | albumTracks _ => albumTracks ⟨0⟩
  | shape => shape

/-- The wrap for no window in particular. -/
def Wrap.blank : Wrap → Wrap
  | count => count
  | window _ _ => window 0 0

/-! ## Skeletons -/

/-- Which parts a filter has, and how many values they have. -/
structure Skeleton where
  searches : Bool
  included : Nat
  excluded : Nat
  actors : Nat
  circles : Nat
  source : Option SourceFilter
  sort : SortOrder
deriving DecidableEq, Repr

def FilterSpec.skeleton (spec : FilterSpec) : Skeleton where
  searches := spec.searchText.isSome
  included := spec.includeTags.size
  excluded := spec.excludeTags.size
  actors := spec.actorKeys.size
  circles := spec.circles.size
  source := spec.effectiveSource
  sort := spec.sort

namespace Skeleton

/-- The predicates of a filter with this skeleton, without their values. -/
def predicates (k : Skeleton) (shape : Shape) : List Predicate :=
  (shape.album?.map .ofAlbum).toList ++
    (if k.searches then [.textMatch "" shape.textColumns shape.tagScope] else []) ++
    unlessEmpty (.allTags shape.tagScope) (.replicate k.included ⟨0⟩) ++
    unlessEmpty (.noTag shape.tagScope) (.replicate k.excluded ⟨0⟩) ++
    actorPredicates (.replicate k.actors "") ++
    unlessEmpty .anyCircle (.replicate k.circles "") ++
    (k.source.map .fromSource).toList

/-- The query of a filter with this skeleton, without its values. -/
def query (k : Skeleton) (shape : Shape) : LibraryQuery :=
  { shape
    statement := .select
      { items := shape.items
        source := shape.source k.sort
        conditions := (k.predicates shape).map Predicate.condition
        groupBy := shape.groupBy
        orderBy := shape.order k.sort } }

end Skeleton

theorem map_blank_unlessEmpty {α : Type} (predicate : List α → Predicate) (a : α)
    (h : ∀ items, (predicate items).blank = predicate (items.map fun _ => a)) (items : List α) :
    (unlessEmpty predicate items).map Predicate.blank =
      unlessEmpty predicate (.replicate items.length a) := by
  rw [← List.map_const']
  cases items with
  | nil => rfl
  | cons item items => exact congrArg ([·]) (h (item :: items))

theorem map_blank_actorPredicates (keys : List String) :
    (actorPredicates keys).map Predicate.blank = actorPredicates (.replicate keys.length "") := by
  rw [← List.map_const']
  cases keys <;> rfl

/-- Without their values, the predicates of a filter are those of its skeleton. -/
theorem map_blank_predicates (spec : FilterSpec) (shape : Shape) :
    (spec.predicates shape).map Predicate.blank = spec.skeleton.predicates shape.blank := by
  have halbum : (shape.album?.map Predicate.ofAlbum).toList.map Predicate.blank =
      (shape.blank.album?.map Predicate.ofAlbum).toList := by
    cases shape <;> rfl
  have hcolumns : shape.textColumns = shape.blank.textColumns := by cases shape <;> rfl
  have htags : shape.tagScope = shape.blank.tagScope := by cases shape <;> rfl
  have htext : (spec.searchText.map fun text =>
        Predicate.textMatch text shape.textColumns shape.tagScope).toList.map Predicate.blank =
      if spec.searchText.isSome then [.textMatch "" shape.textColumns shape.tagScope] else [] := by
    cases spec.searchText <;> rfl
  have hsource : (spec.effectiveSource.map Predicate.fromSource).toList.map Predicate.blank =
      (spec.effectiveSource.map Predicate.fromSource).toList := by
    cases spec.effectiveSource <;> rfl
  have hincluded := map_blank_unlessEmpty (.allTags shape.tagScope) ⟨0⟩ (fun _ => rfl)
    spec.includeTags.toList
  have hexcluded := map_blank_unlessEmpty (.noTag shape.tagScope) ⟨0⟩ (fun _ => rfl)
    spec.excludeTags.toList
  have hcircles := map_blank_unlessEmpty .anyCircle "" (fun _ => rfl) spec.circles.toList
  have hactors := map_blank_actorPredicates spec.actorKeys.toList
  rw [predicates_eq, Skeleton.predicates, ← hcolumns, ← htags]
  simp only [List.map_append, halbum, htext, hincluded, hexcluded, hactors, hcircles, hsource]
  rfl

/-! ## The text of a query -/

/-- The text of conditions depends on their predicates without values alone. -/
theorem blank_renderWhere {ps qs : List Predicate}
    (h : ps.map Predicate.blank = qs.map Predicate.blank) :
    (renderWhere Subselect.render (ps.map Predicate.condition)).blank =
      (renderWhere Subselect.render (qs.map Predicate.condition)).blank := by
  have hparts : ps.map (fun p => p.condition.render.blank) =
      qs.map fun q => q.condition.render.blank := by
    have hblank := congrArg (List.map fun p : Predicate => p.condition.render.blank) h
    simpa [← Predicate.blank_render_condition, Function.comp_def] using hblank
  have hjoined : (Rendered.joined " AND " (ps.map fun p => p.condition.render)).blank =
      (Rendered.joined " AND " (qs.map fun q => q.condition.render)).blank :=
    Rendered.blank_joined_congr " AND " hparts
  cases ps with
  | nil =>
      obtain rfl := List.map_eq_nil_iff.mp h.symm
      rfl
  | cons p ps =>
      cases qs with
      | nil => exact absurd h (by simp)
      | cons q qs =>
          have hrender := congrArg (Piece.text " WHERE " :: ·) hjoined
          simpa [renderWhere, Test.render, Function.comp_def] using hrender

namespace LibraryQuery

theorem blank_render_compile (spec : FilterSpec) (shape : Shape) :
    (compile shape spec).statement.render.blank =
      (spec.skeleton.query shape.blank).statement.render.blank := by
  have hitems : shape.items = shape.blank.items := by cases shape <;> rfl
  have hsource : shape.source spec.sort = shape.blank.source spec.sort := by cases shape <;> rfl
  have hgroup : shape.groupBy = shape.blank.groupBy := by cases shape <;> rfl
  have horder : shape.order spec.sort = shape.blank.order spec.sort := by cases shape <;> rfl
  have hblank : (spec.predicates shape).map Predicate.blank =
      (spec.skeleton.predicates shape.blank).map Predicate.blank := by
    rw [← map_blank_predicates, List.map_map]
    exact List.map_congr_left fun p _ => p.blank_blank.symm
  have hwhere := blank_renderWhere hblank
  unfold compile Skeleton.query Statement.render Select.render
  simp only [Rendered.blank_append, hitems, hsource, hgroup, horder, hwhere]
  rfl

/-- A wrap writes the same around texts that are blank alike, whatever its window. -/
theorem blank_render_apply {q r : LibraryQuery}
    (h : q.statement.render.blank = r.statement.render.blank) (wrap : Wrap) :
    (wrap.apply q).statement.render.blank = (wrap.blank.apply r).statement.render.blank := by
  cases wrap with
  | count =>
      show (Statement.count q.statement).render.blank = (Statement.count r.statement).render.blank
      simp [Statement.render, h]
  | window limit offset =>
      show (Statement.window q.statement limit offset).render.blank =
        (Statement.window r.statement 0 0).render.blank
      simp [Statement.render, h]

theorem blank_render_wrapped {q r : LibraryQuery}
    (h : q.statement.render.blank = r.statement.render.blank) (wraps : List Wrap) :
    (q.wrapped wraps).statement.render.blank =
      (r.wrapped (wraps.map Wrap.blank)).statement.render.blank := by
  induction wraps generalizing q r with
  | nil => exact h
  | cons wrap wraps ih => exact ih (blank_render_apply h wrap)

/-- A query has the text of its skeleton's query. -/
theorem sql_wrapped (spec : FilterSpec) (shape : Shape) (wraps : List Wrap) :
    ((compile shape spec).wrapped wraps).statement.sql =
      ((spec.skeleton.query shape.blank).wrapped (wraps.map Wrap.blank)).statement.sql := by
  apply Rendered.sql_eq_of_blank_eq
  exact blank_render_wrapped (blank_render_compile spec shape) wraps

/-- **Nothing that was typed is a part of a query's text.**  The queries of two filters with one
skeleton, for shapes and wraps of the same kinds, have the same text, and it is that of a query
without values. -/
theorem sql_eq_of_skeleton_eq {spec other : FilterSpec} {shape shape' : Shape}
    {wraps wraps' : List Wrap} (hspec : spec.skeleton = other.skeleton)
    (hshape : shape.blank = shape'.blank)
    (hwraps : wraps.map Wrap.blank = wraps'.map Wrap.blank) :
    let text := ((compile shape spec).wrapped wraps).statement.sql
    text = ((compile shape' other).wrapped wraps').statement.sql ∧
      text = ((spec.skeleton.query shape.blank).wrapped (wraps.map Wrap.blank)).statement.sql := by
  intro text
  have htext := sql_wrapped spec shape wraps
  refine ⟨?_, htext⟩
  calc text
      = ((spec.skeleton.query shape.blank).wrapped (wraps.map Wrap.blank)).statement.sql := htext
    _ = ((other.skeleton.query shape'.blank).wrapped (wraps'.map Wrap.blank)).statement.sql := by
        rw [hspec, hshape, hwraps]
    _ = ((compile shape' other).wrapped wraps').statement.sql :=
        (sql_wrapped other shape' wraps').symm

/-- Apostrophes, question marks and statements that are typed into a filter leave its text alone. -/
theorem sql_eq_of_skeleton_eq_hostile :
    let spec : FilterSpec :=
      { textQuery := some "' OR 1 = 1 --", includeTags := .ofList [⟨7⟩],
        voiceActors := .ofList ["?, '", "\n"], circles := .ofList ["'); DROP TABLE albums; --"] }
    let other : FilterSpec :=
      { textQuery := some "rain", includeTags := .ofList [⟨-1⟩],
        voiceActors := .ofList ["Aoi Yuki", "AoiYuki"], circles := .ofList ["Circle"] }
    spec.skeleton = other.skeleton ∧
      ((compile (.albumTracks ⟨7⟩) spec).wrapped [.window 20 40, .count]).statement.sql =
        ((compile (.albumTracks ⟨8⟩) other).wrapped [.window 5 0, .count]).statement.sql := by
  intro spec other
  have hskeleton : spec.skeleton = other.skeleton := by decide +kernel
  have hshape : (Shape.albumTracks ⟨7⟩).blank = (Shape.albumTracks ⟨8⟩).blank := rfl
  have hwraps : [Wrap.window 20 40, .count].map Wrap.blank =
      [Wrap.window 5 0, .count].map Wrap.blank := rfl
  exact ⟨hskeleton, (sql_eq_of_skeleton_eq hskeleton hshape hwraps).1⟩

end LibraryQuery

end AudioLibrary
