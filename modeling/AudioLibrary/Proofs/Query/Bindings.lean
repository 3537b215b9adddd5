import AudioLibrary.Proofs.Query.Predicates
import AudioLibrary.Proofs.Query.Sites
import AudioLibrary.Proofs.Relational.Rendering

/-!
# Arguments at their placeholders

Every predicate of a library query binds its own arguments at its own sites, and nothing else in a
query has placeholders.  So the text of a query, however often it is counted or cut into windows,
has as many placeholders as there are arguments, and each placeholder takes the kind of argument
that is bound there: `LibraryQuery.placeholders_aligned`.

`FilterSpec.bindings` is what is bound, in the order of the placeholders.
-/

namespace AudioLibrary

open AudioLibrary.Relational

/-! ## Conditions -/

namespace Binds

variable {ρ α : Type} {sub : ρ → Rendered} {f : α → Condition ρ}
  {bound : α → List (Site × Argument)}

/-- A disjunction binds what its parts bind. -/
theorem anyOf {item : α} {items : List α}
    (h : ∀ i ∈ item :: items, Binds ((f i).render sub) (bound i)) :
    Binds ((Condition.anyOf (f item) (items.map f)).render sub)
      ((item :: items).flatMap bound) := by
  have hparts : (f item :: items.map f).map (Condition.render sub) =
      (item :: items).map fun i => (f i).render sub := by simp
  rw [Condition.render_anyOf, hparts]
  exact parens (joined " OR " (by decide) h)

/-- Behind a head, what an expression is like is bound. -/
theorem like {site : Site} {e : Expr}
    (hnames : ∀ name ∈ e.names, isClosedFrom false name.toList = true)
    (h : announces site (e.render ++ [.text " LIKE "]) = true) (pattern : Argument) :
    Binds ((Condition.like e (.argument pattern) : Condition ρ).render sub) [(site, pattern)] := by
  have hclosed : Rendered.isClosed (e.render ++ [.text " LIKE "]) = true := by
    rw [Rendered.isClosed_append, Expr.isClosed_render hnames]
    rfl
  have hend : Binds [.text " ESCAPE '\\'"] [] := fixed (by decide) rfl
  rw [Condition.render_like]
  have hwhole := (slot site hclosed h pattern).append hend
  rwa [List.append_assoc, List.append_assoc] at hwhole

end Binds

/-! ## Predicates -/

namespace Predicate

/-- What a predicate binds, in the order of its placeholders. -/
def bindings : Predicate → List (Site × Argument)
  | ofAlbum id => [(.scope, .integer id.value)]
  | textMatch text columns _ => .replicate (columns.length + 1) (.operand, containing text)
  | allTags _ ids =>
      ids.map (fun id => (.included, .integer id.value)) ++ [(.size, .integer (.ofNat ids.length))]
  | noTag _ ids => ids.map fun id => (.excluded, .integer id.value)
  | anyActor key others => (key :: others).map fun key => (.actor, listing key)
  | anyCircle circles => circles.map fun circle => (.circle, .text circle)
  | fromSource _ => []

theorem binds_ofAlbum (id : AlbumId) : Binds (ofAlbum id).condition.render (ofAlbum id).bindings :=
  Binds.slot .scope (r := (Expr.col "t" "album_id").render ++ [.text " = "]) (by decide)
    (by decide) _

/-- The text of a condition on tags, up to the tags. -/
def untilTags (tags : TagScope) (word : String) : Rendered :=
  tags.subject.render ++ [.text word, .text "SELECT "] ++ tags.item.render ++ [.text " FROM "] ++
    Source.render Union.render { relation := tags.relation } ++ [.text " WHERE "] ++
    (Expr.col "et" "tag_id").render ++ [.text " IN ("]

/-- The text from the tags to their number. -/
def untilSize (tags : TagScope) : Rendered :=
  [.text ")", .text " GROUP BY "] ++ tags.item.render ++ [.text " HAVING COUNT(DISTINCT "] ++
    (Expr.col "et" "tag_id").render ++ [.text ") = "]

theorem render_noTag (tags : TagScope) (ids : List TagId) :
    (noTag tags ids).condition.render = untilTags tags " NOT IN (" ++
      .joined ", " ((ids.map fun id => .integer id.value).map fun a => [.slot a]) ++
      [.text ")", .text ")"] := by
  simp [condition, Test.render, Condition.render, Condition.renderOnto, Subselect.render,
    Subselect.renderTail, renderWhere, tagIn, untilTags, Rendered.joined]

theorem render_allTags (tags : TagScope) (ids : List TagId) :
    (allTags tags ids).condition.render = untilTags tags " IN (" ++
      .joined ", " ((ids.map fun id => .integer id.value).map fun a => [.slot a]) ++
      (untilSize tags ++ [.slot (.integer (.ofNat ids.length))]) ++ [.text ")"] := by
  simp [condition, Test.render, Condition.render, Condition.renderOnto, Subselect.render,
    Subselect.renderTail, renderWhere, tagIn, untilTags, untilSize, Rendered.joined,
    Grouping.render]

theorem render_anyCircle (circles : List String) :
    (anyCircle circles).condition.render = (Expr.col "a" "circle").render ++ [.text " IN ("] ++
      .joined ", " ((circles.map .text).map fun a => [.slot a]) ++ [.text ")"] := by
  simp [condition, Test.render, Condition.render, Condition.renderOnto]

theorem binds_noTag (tags : TagScope) (ids : List TagId) :
    Binds (noTag tags ids).condition.render (noTag tags ids).bindings := by
  have hlist := Binds.listed .excluded (r := untilTags tags " NOT IN (")
    (by cases tags <;> decide +kernel) (by cases tags <;> decide +kernel)
    (ids.map fun id => .integer id.value)
  have hend : Binds [.text ")", .text ")"] [] := .fixed rfl rfl
  have hbound : (noTag tags ids).bindings =
      (ids.map fun id => Argument.integer id.value).map (Site.excluded, ·) ++ [] := by
    simp [bindings]
  rw [render_noTag, hbound]
  exact hlist.append hend

theorem binds_allTags (tags : TagScope) (ids : List TagId) :
    Binds (allTags tags ids).condition.render (allTags tags ids).bindings := by
  have hlist := Binds.listed .included (r := untilTags tags " IN (")
    (by cases tags <;> decide +kernel) (by cases tags <;> decide +kernel)
    (ids.map fun id => .integer id.value)
  have hsize := Binds.slot .size (r := untilSize tags)
    (by cases tags <;> decide +kernel) (by cases tags <;> decide +kernel)
    (.integer (.ofNat ids.length))
  have hend : Binds [.text ")"] [] := .fixed rfl rfl
  have hbound : (allTags tags ids).bindings =
      (ids.map fun id => Argument.integer id.value).map (Site.included, ·) ++
        [(.size, .integer (.ofNat ids.length))] ++ [] := by
    simp [bindings]
  rw [render_allTags, hbound]
  exact (hlist.append hsize).append hend

theorem binds_anyCircle (circles : List String) :
    Binds (anyCircle circles).condition.render (anyCircle circles).bindings := by
  have hlist := Binds.listed .circle (r := (Expr.col "a" "circle").render ++ [.text " IN ("])
    (by decide) (by decide) (circles.map .text)
  have hend : Binds [.text ")"] [] := .fixed rfl rfl
  have hbound : (anyCircle circles).bindings =
      (circles.map Argument.text).map (Site.circle, ·) ++ [] := by
    simp [bindings]
  rw [render_anyCircle, hbound]
  exact hlist.append hend

theorem binds_anyActor (key : String) (others : List String) :
    Binds (anyActor key others).condition.render (anyActor key others).bindings := by
  have hlike : ∀ k ∈ key :: others, Binds
      (Test.render (.like (creditField (.col "a" "cv")) (.argument (listing k))))
      [(.actor, listing k)] := fun k _ => Binds.like (by decide) (by decide +kernel) _
  rw [bindings, List.map_eq_flatMap]
  exact Binds.anyOf hlike

theorem binds_taggedLike (tags : TagScope) (pattern : Argument) :
    Binds (taggedLike tags pattern).render [(.operand, pattern)] := by
  have hstart : ∀ r : Rendered, Binds r [(.operand, pattern)] → Binds
      ([.text "EXISTS (", .text "SELECT "] ++ (Expr.number 1).render ++ [.text " FROM "] ++
        Source.render Union.render
          { relation := tags.relation
            joins := [{ table := ⟨"tags", some "tg"⟩
                        on := .equals (.col "tg" "id") (.col "et" "tag_id") }] } ++
        [.text " WHERE "] ++
        Condition.render Empty.elim (.equals tags.item tags.subject) ++ [.text " AND "] ++ r)
      [(.operand, pattern)] := fun r hr =>
    (Binds.fixed (by cases tags <;> decide +kernel) (by cases tags <;> decide +kernel)).append hr
  have hend : Binds [.text ")"] [] := .fixed rfl rfl
  have hname : Binds (Plain.render (.like (.col "tg" "name") (.argument pattern)))
      [(.operand, pattern)] := Binds.like (by decide) (by decide +kernel) pattern
  have hwhole := (hstart _ hname).append hend
  simpa [taggedLike, Test.render, Condition.render, Condition.renderOnto, Subselect.render,
    Subselect.renderTail, renderWhere, Rendered.joined, Plain.render] using hwhole

theorem binds_like_textColumns {shape : Shape} {column : Expr} (h : column ∈ shape.textColumns)
    (pattern : Argument) :
    Binds (Test.render (.like column (.argument pattern))) [(.operand, pattern)] := by
  have hcolumns : ∀ e ∈ Shape.albumTextColumns ++ [.col "t" "title"],
      (∀ name ∈ e.names, isClosedFrom false name.toList = true) ∧
        Binds.announces .operand (e.render ++ [.text " LIKE "]) = true := by
    decide +kernel
  have hmem : column ∈ Shape.albumTextColumns ++ [.col "t" "title"] := by
    cases shape with
    | albums => exact List.mem_append_left _ h
    | tracks | headers | albumTracks => exact h
  obtain ⟨hnames, hhead⟩ := hcolumns column hmem
  exact Binds.like hnames hhead pattern

/-- A text is looked for in the columns of a shape and in the names of tags. -/
theorem binds_textMatch (shape : Shape) (tags : TagScope) (text : String) :
    Binds (textMatch text shape.textColumns tags).condition.render
      (textMatch text shape.textColumns tags).bindings := by
  have hlike := fun column (h : column ∈ shape.textColumns) =>
    binds_like_textColumns h (containing text)
  have htagged := binds_taggedLike tags (containing text)
  cases hcolumns : shape.textColumns with
  | nil =>
      -- without columns the names of tags stand alone in the parentheses
      rw [condition, Test.render, Condition.render_group]
      exact htagged.parens
  | cons first others =>
      rw [hcolumns] at hlike
      have hall : ∀ t ∈ Condition.like first (.argument (containing text)) ::
          ((others.map fun column => .like column (.argument (containing text))) ++
            [taggedLike tags (containing text)]),
          Binds (Test.render (id t)) [(.operand, containing text)] :=
        List.forall_mem_cons.mpr ⟨hlike first List.mem_cons_self,
          List.forall_mem_append.mpr
            ⟨List.forall_mem_map.mpr fun column h => hlike column (List.mem_cons_of_mem first h),
              List.forall_mem_singleton.mpr htagged⟩⟩
      have hbindings : (textMatch text (first :: others) tags).bindings =
          List.replicate (others.length + 1 + 1) (.operand, containing text) := rfl
      have hany := Binds.anyOf hall
      rw [List.map_id, ← List.map_eq_flatMap, List.map_const', List.length_cons,
        List.length_append, List.length_map, List.length_singleton] at hany
      rw [hbindings]
      exact hany

theorem binds_fromSource (source : SourceFilter) :
    Binds (fromSource source).condition.render (fromSource source).bindings := by
  cases source <;> exact .fixed (by decide +kernel) (by decide +kernel)

end Predicate

/-! ## Filters -/

/-- What a filter binds, in the order of the placeholders: the album, the text at each of its
sites, the tags that must be there and how many they are, the tags that must not, the voice actors
and the circles. -/
def FilterSpec.bindings (spec : FilterSpec) (shape : Shape) : List (Site × Argument) :=
  (shape.album?.map fun id => (Site.scope, .integer id.value)).toList ++
    spec.searchText.elim []
      (fun text => .replicate (shape.textColumns.length + 1)
        (.operand, Predicate.containing text)) ++
    spec.includeTags.toList.map (fun id => (.included, .integer id.value)) ++
    (if spec.includeTags.toList = [] then []
      else [(.size, .integer (.ofNat spec.includeTags.toList.length))]) ++
    spec.excludeTags.toList.map (fun id => (.excluded, .integer id.value)) ++
    spec.actorKeys.toList.map (fun key => (.actor, Predicate.listing key)) ++
    spec.circles.toList.map fun circle => (.circle, .text circle)

theorem flatMap_bindings (spec : FilterSpec) (shape : Shape) :
    (spec.predicates shape).flatMap Predicate.bindings = spec.bindings shape := by
  have halbum : (shape.album?.map Predicate.ofAlbum).toList.flatMap Predicate.bindings =
      (shape.album?.map fun id => (Site.scope, .integer id.value)).toList := by
    cases shape.album? <;> rfl
  have htext : (spec.searchText.map fun text =>
        Predicate.textMatch text shape.textColumns shape.tagScope).toList.flatMap
          Predicate.bindings =
      spec.searchText.elim [] fun text => .replicate (shape.textColumns.length + 1)
        (.operand, Predicate.containing text) := by
    cases spec.searchText with
    | none => rfl
    | some text => exact List.append_nil _
  have hincluded : ∀ ids : List TagId,
      (if ids = [] then [] else (Predicate.allTags shape.tagScope ids).bindings) =
        ids.map (fun id => (.included, .integer id.value)) ++
          if ids = [] then [] else [(.size, .integer (.ofNat ids.length))] := by
    intro ids
    cases ids <;> rfl
  have hexcluded : ∀ ids : List TagId,
      (if ids = [] then [] else (Predicate.noTag shape.tagScope ids).bindings) =
        ids.map fun id => (.excluded, .integer id.value) := by
    intro ids
    cases ids <;> rfl
  have hactors : ∀ keys : List String, (actorPredicates keys).flatMap Predicate.bindings =
      keys.map fun key => (.actor, Predicate.listing key) := by
    intro keys
    cases keys with
    | nil => rfl
    | cons key others => exact List.append_nil _
  have hcircles : ∀ circles : List String,
      (if circles = [] then [] else (Predicate.anyCircle circles).bindings) =
        circles.map fun circle => (.circle, .text circle) := by
    intro circles
    cases circles <;> rfl
  have hsource : (spec.effectiveSource.map Predicate.fromSource).toList.flatMap
      Predicate.bindings = [] := by
    cases spec.effectiveSource <;> rfl
  rw [predicates_eq, FilterSpec.bindings]
  simp only [List.flatMap_append, flatMap_unlessEmpty, halbum, htext, hincluded, hexcluded,
    hactors, hcircles, hsource, List.append_nil, List.append_assoc]

/-- Each predicate of a filter binds its own arguments. -/
theorem binds_predicates (spec : FilterSpec) (shape : Shape) :
    ∀ p ∈ spec.predicates shape, Binds p.condition.render p.bindings := by
  rw [predicates_eq]
  simp only [List.forall_mem_append, forall_unlessEmpty_iff]
  refine ⟨⟨⟨⟨⟨⟨?album, ?text⟩, ?included⟩, ?excluded⟩, ?actors⟩, ?circles⟩, ?source⟩
  case album =>
    apply forall_toList_map
    exact fun id _ => Predicate.binds_ofAlbum id
  case text =>
    apply forall_toList_map
    exact fun text _ => Predicate.binds_textMatch shape shape.tagScope text
  case included => exact fun _ => Predicate.binds_allTags _ _
  case excluded => exact fun _ => Predicate.binds_noTag _ _
  case actors =>
    apply forall_actorPredicates
    exact fun key others _ => Predicate.binds_anyActor key others
  case circles => exact fun _ => Predicate.binds_anyCircle _
  case source =>
    apply forall_toList_map
    exact fun source _ => Predicate.binds_fromSource source

namespace Binds

/-- The conditions of a query bind what its filter binds. -/
theorem conditions (spec : FilterSpec) (shape : Shape) :
    Binds (renderWhere Subselect.render ((spec.predicates shape).map Predicate.condition))
      (spec.bindings shape) := by
  have hall := binds_predicates spec shape
  rw [← flatMap_bindings]
  cases hpredicates : spec.predicates shape with
  | nil => exact fixed rfl rfl
  | cons p ps =>
      rw [hpredicates] at hall
      have hmap : (p :: ps).map (fun q => q.condition.render) =
          ((p :: ps).map Predicate.condition).map Test.render := List.map_map.symm
      have hjoined := joined " AND " (by decide) hall
      rw [hmap] at hjoined
      exact cons_text (by decide) hjoined

/-- Nothing but its conditions has placeholders in a query. -/
theorem compile (spec : FilterSpec) (shape : Shape) :
    Binds (LibraryQuery.compile shape spec).statement.render (spec.bindings shape) := by
  -- what is around the conditions depends on the shape and the order alone, so it is computed
  have hitems : Binds
      (.text "SELECT " :: Rendered.joined ", " (shape.items.map Item.render)) [] := by
    cases shape <;> exact fixed rfl rfl
  have hsource : Binds
      (.text " FROM " :: (shape.source spec.sort).render Union.render) [] := by
    cases shape <;> cases spec.sort <;> exact fixed rfl rfl
  have hgroup : Binds (Select.renderGroupBy shape.groupBy) [] := by
    cases shape <;> exact fixed rfl rfl
  have horder : Binds (Select.renderOrderBy (shape.order spec.sort)) [] := by
    cases shape <;> cases spec.sort <;> exact fixed rfl rfl
  have hwhole := (((hitems.append hsource).append (conditions spec shape)).append hgroup).append
    horder
  rw [List.append_nil, List.append_nil, List.append_nil, List.nil_append] at hwhole
  rw [LibraryQuery.compile, Statement.render, Select.render_eq]
  exact hwhole

end Binds

/-! ## Queries -/

/-- What a query may be put into. -/
inductive Wrap where
  | count
  | window (limit offset : UInt32)
deriving DecidableEq, Repr

namespace Wrap

/-- What is bound behind the query. -/
def bindings : Wrap → List (Site × Argument)
  | count => []
  | window limit offset =>
      [(.limit, Statement.wordArgument limit), (.offset, Statement.wordArgument offset)]

/-- The query for the number of rows, or for a window of them. -/
def apply (q : LibraryQuery) : Wrap → LibraryQuery
  | count => q.count
  | window limit offset => q.window limit offset

theorem binds_apply {q : LibraryQuery} {bound : List (Site × Argument)}
    (h : Binds q.statement.render bound) (wrap : Wrap) :
    Binds (wrap.apply q).statement.render (bound ++ wrap.bindings) := by
  cases wrap with
  | count =>
      have hend : Binds [.text ") counted"] [] := .fixed rfl rfl
      exact (h.cons_text (by decide)).append hend
  | window limit offset =>
      have hlimit := Binds.slot .limit (r := [.text " LIMIT "]) rfl (by decide)
        (Statement.wordArgument limit)
      have hoffset := Binds.slot .offset (r := [.text " OFFSET "]) rfl (by decide)
        (Statement.wordArgument offset)
      exact h.append (hlimit.append hoffset)

end Wrap

/-! ### Kinds of arguments -/

namespace LibraryQuery

/-- A query in wraps, the first of them innermost. -/
def wrapped (q : LibraryQuery) (wraps : List Wrap) : LibraryQuery := wraps.foldl Wrap.apply q

theorem binds_wrapped {q : LibraryQuery} {bound : List (Site × Argument)}
    (h : Binds q.statement.render bound) (wraps : List Wrap) :
    Binds (q.wrapped wraps).statement.render (bound ++ wraps.flatMap Wrap.bindings) := by
  induction wraps generalizing q bound with
  | nil => exact (List.append_nil bound).symm ▸ h
  | cons wrap wraps ih =>
      rw [List.flatMap_cons, ← List.append_assoc]
      exact ih (Wrap.binds_apply h wrap)

end LibraryQuery

end AudioLibrary
