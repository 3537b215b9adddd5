import AudioLibrary.Proofs.Query.Bindings
import AudioLibrary.Proofs.Query.Matching

/-!
# Queries tell filters apart

Two filters agree if they ask for the same: the same search text, the same sets of tags and
circles, the same keys of voice actors, the same source and the same order.  How a filter was typed
or stored does not count, and neither does a name without a key.

`same_query_iff` shows that filters have the same query exactly if they agree.  One direction puts
the parts of a filter back together from its query.  What is bound is read off the sites of the
placeholders.  The order and the source are all that is left, and these are read off the text: no
order of rows ends in another, and what stands behind the other conditions names the source.
-/

namespace AudioLibrary

open AudioLibrary.Relational

/-! ## Agreement -/

/-- Whether two filters ask for the same. -/
structure FilterSpec.Agrees (spec other : FilterSpec) : Prop where
  text : spec.searchText = other.searchText
  included : ∀ id, id ∈ spec.includeTags ↔ id ∈ other.includeTags
  excluded : ∀ id, id ∈ spec.excludeTags ↔ id ∈ other.excludeTags
  /-- The same keys are requested, those of names without one aside. -/
  actors : ∀ key, key ≠ [] →
    ((∃ name ∈ spec.voiceActors, Credits.key name.toList = key) ↔
      ∃ name ∈ other.voiceActors, Credits.key name.toList = key)
  circles : ∀ circle, circle ∈ spec.circles ↔ circle ∈ other.circles
  source : spec.source.getD .both = other.source.getD .both
  sort : spec.sort = other.sort

namespace FilterSpec

variable {spec other : FilterSpec}

theorem actorKeys_eq_iff :
    spec.actorKeys = other.actorKeys ↔ ∀ key, key ≠ [] →
      ((∃ name ∈ spec.voiceActors, Credits.key name.toList = key) ↔
        ∃ name ∈ other.voiceActors, Credits.key name.toList = key) := by
  have hmem : ∀ (spec : FilterSpec) (key : List Char), key ≠ [] →
      (String.ofList key ∈ spec.actorKeys ↔
        ∃ name ∈ spec.voiceActors, Credits.key name.toList = key) := by
    intro spec key hkey
    rw [FilterSpec.mem_actorKeys_iff]
    constructor
    · rintro ⟨name, hname, -, heq⟩
      exact ⟨name, hname, String.ofList_injective heq⟩
    · rintro ⟨name, hname, rfl⟩
      exact ⟨name, hname, hkey, rfl⟩
  constructor
  · intro h key hkey
    rw [← hmem spec key hkey, ← hmem other key hkey, h]
  · intro h
    ext key
    by_cases hkey : key.toList = []
    · -- a name without a key asks for nothing
      have hnone : ∀ spec : FilterSpec, key ∉ spec.actorKeys := by
        intro spec hmem
        obtain ⟨name, -, hne, rfl⟩ := (FilterSpec.mem_actorKeys_iff spec key).mp hmem
        exact hne (by rwa [String.toList_ofList] at hkey)
      exact iff_of_false (hnone spec) (hnone other)
    · have hboth := h key.toList hkey
      rwa [← hmem spec _ hkey, ← hmem other _ hkey, String.ofList_toList] at hboth

theorem effectiveSource_eq_iff :
    spec.effectiveSource = other.effectiveSource ↔
      spec.source.getD .both = other.source.getD .both := by
  have hsource : ∀ spec : FilterSpec,
      spec.effectiveSource = (some (spec.source.getD .both)).filter (· ≠ .both) := by
    intro spec
    unfold effectiveSource
    cases spec.source <;> rfl
  rw [hsource, hsource]
  cases spec.source.getD .both <;> cases other.source.getD .both <;> decide

theorem agrees_iff :
    spec.Agrees other ↔
      spec.searchText = other.searchText ∧ spec.includeTags = other.includeTags ∧
        spec.excludeTags = other.excludeTags ∧ spec.actorKeys = other.actorKeys ∧
        spec.circles = other.circles ∧ spec.effectiveSource = other.effectiveSource ∧
        spec.sort = other.sort := by
  constructor
  · rintro ⟨htext, hincluded, hexcluded, hactors, hcircles, hsource, hsort⟩
    exact ⟨htext, SortedSet.ext hincluded, SortedSet.ext hexcluded,
      actorKeys_eq_iff.mpr hactors, SortedSet.ext hcircles,
      effectiveSource_eq_iff.mpr hsource, hsort⟩
  · rintro ⟨htext, hincluded, hexcluded, hactors, hcircles, hsource, hsort⟩
    exact ⟨htext, fun id => by rw [hincluded], fun id => by rw [hexcluded],
      actorKeys_eq_iff.mp hactors, fun circle => by rw [hcircles],
      effectiveSource_eq_iff.mp hsource, hsort⟩

end FilterSpec

/-! ## What is bound -/

/-- The arguments that are bound at a site, in order. -/
def argumentsAt (site : Site) (bound : List (Site × Argument)) : List Argument :=
  (bound.filter fun b => b.1 = site).map Prod.snd

theorem argumentsAt_append (site : Site) (bound others : List (Site × Argument)) :
    argumentsAt site (bound ++ others) = argumentsAt site bound ++ argumentsAt site others := by
  simp [argumentsAt]

theorem argumentsAt_map {α : Type} (site s : Site) (argument : α → Argument) (items : List α) :
    argumentsAt site (items.map fun item => (s, argument item)) =
      if s = site then items.map argument else [] := by
  unfold argumentsAt
  by_cases h : s = site <;> simp [List.filter_map, Function.comp_def, h]

theorem argumentsAt_replicate (site s : Site) (n : Nat) (a : Argument) :
    argumentsAt site (.replicate n (s, a)) = if s = site then .replicate n a else [] := by
  unfold argumentsAt
  by_cases h : s = site <;> simp [h]

theorem argumentsAt_toList_map {α : Type} (site s : Site) (argument : α → Argument)
    (o : Option α) :
    argumentsAt site (o.map fun item => (s, argument item)).toList =
      if s = site then (o.map argument).toList else [] := by
  cases o with
  | none => simp [argumentsAt]
  | some item => exact argumentsAt_map site s argument [item]

theorem argumentsAt_bindings (spec : FilterSpec) (shape : Shape) :
    argumentsAt .operand (spec.bindings shape) = spec.searchText.elim [] (fun text =>
        .replicate (shape.textColumns.length + 1) (Predicate.containing text)) ∧
      argumentsAt .included (spec.bindings shape) =
        spec.includeTags.toList.map (fun id => .integer id.value) ∧
      argumentsAt .excluded (spec.bindings shape) =
        spec.excludeTags.toList.map (fun id => .integer id.value) ∧
      argumentsAt .actor (spec.bindings shape) = spec.actorKeys.toList.map Predicate.listing ∧
      argumentsAt .circle (spec.bindings shape) = spec.circles.toList.map .text := by
  have htext : ∀ site, argumentsAt site (spec.searchText.elim [] fun text =>
        .replicate (shape.textColumns.length + 1) (Site.operand, Predicate.containing text)) =
      if Site.operand = site then spec.searchText.elim [] fun text =>
        .replicate (shape.textColumns.length + 1) (Predicate.containing text) else [] := by
    intro site
    cases spec.searchText with
    | none => exact (ite_self []).symm
    | some text => exact argumentsAt_replicate _ _ _ _
  have hsize : ∀ site, site ≠ .size → argumentsAt site
      (if spec.includeTags.toList = [] then []
        else [(Site.size, Argument.integer (.ofNat spec.includeTags.toList.length))]) = [] := by
    intro site hsite
    split
    · rfl
    · simp [argumentsAt, Ne.symm hsite]
  unfold FilterSpec.bindings
  simp only [argumentsAt_append, argumentsAt_toList_map, argumentsAt_map, htext]
  simp [hsize]

/-! ### Values from arguments -/

theorem Predicate.containing_injective : Function.Injective Predicate.containing := by
  intro text other h
  have hchars := String.ofList_injective (Argument.text.inj h)
  have hescaped := List.append_cancel_right (List.cons.inj hchars).2
  exact String.toList_inj.mp (escape_injective hescaped)

theorem Predicate.listing_injective : Function.Injective Predicate.listing := by
  intro key other h
  have hchars := String.ofList_injective (Argument.text.inj h)
  have hescaped := List.append_cancel_left (List.append_cancel_right hchars)
  exact String.toList_inj.mp (escape_injective hescaped)

theorem tagArgument_injective :
    Function.Injective fun id : TagId => Argument.integer id.value := by
  rintro ⟨value⟩ ⟨other⟩ h
  exact congrArg TagId.mk (Argument.integer.inj h)

/-- Sets whose members are bound alike are the same set. -/
theorem SortedSet.eq_of_map_eq {α : Type} [Ord α] {s t : SortedSet α} {argument : α → Argument}
    (hinjective : Function.Injective argument)
    (h : s.toList.map argument = t.toList.map argument) : s = t := by
  obtain ⟨s, hs⟩ := s
  obtain ⟨t, ht⟩ := t
  obtain rfl : s = t := (List.map_inj_right fun _ _ heq => hinjective heq).mp h
  rfl

/-- **What is bound determines the text, the tags, the voice actors and the circles.** -/
theorem eq_of_bindings_eq {spec other : FilterSpec} {shape : Shape}
    (h : spec.bindings shape = other.bindings shape) :
    spec.searchText = other.searchText ∧ spec.includeTags = other.includeTags ∧
      spec.excludeTags = other.excludeTags ∧ spec.actorKeys = other.actorKeys ∧
      spec.circles = other.circles := by
  obtain ⟨htext, hincluded, hexcluded, hactors, hcircles⟩ := argumentsAt_bindings spec shape
  obtain ⟨htext', hincluded', hexcluded', hactors', hcircles'⟩ := argumentsAt_bindings other shape
  rw [h] at htext hincluded hexcluded hactors hcircles
  refine ⟨?_, SortedSet.eq_of_map_eq tagArgument_injective (hincluded.symm.trans hincluded'),
    SortedSet.eq_of_map_eq tagArgument_injective (hexcluded.symm.trans hexcluded'),
    SortedSet.eq_of_map_eq Predicate.listing_injective (hactors.symm.trans hactors'),
    SortedSet.eq_of_map_eq (fun _ _ => Argument.text.inj) (hcircles.symm.trans hcircles')⟩
  have hboth := htext.symm.trans htext'
  cases hspec : spec.searchText with
  | none =>
      cases hother : other.searchText with
      | none => rfl
      | some text =>
          rw [hspec, hother] at hboth
          exact absurd hboth (by simp)
  | some text =>
      cases hother : other.searchText with
      | none =>
          rw [hspec, hother] at hboth
          exact absurd hboth (by simp)
      | some text' =>
          rw [hspec, hother] at hboth
          have hcontaining := (List.replicate_inj.mp hboth).2.resolve_left (Nat.succ_ne_zero _)
          rw [Predicate.containing_injective hcontaining]

/-! ## The order -/

/-- The text of an order of rows. -/
def orderText (keys : List OrderKey) : List Char :=
  Rendered.chars (.text " ORDER BY " :: Rendered.joined ", " (keys.map OrderKey.render))

theorem SortOrder.mem_all (sort : SortOrder) : sort ∈ SortOrder.all := by
  cases sort <;> decide

theorem orderTexts_apart :
    (SortOrder.all.all fun a => SortOrder.all.all fun b =>
      [[], Shape.fileOrder].all fun files => decide (a = b) ||
        !(orderText (Shape.albumOrder a ++ files)).isSuffixOf
          (orderText (Shape.albumOrder b ++ files))) = true := by
  decide +kernel

/-- **No order of rows ends in another.** -/
theorem eq_of_orderText_suffix {shape : Shape} {a b : SortOrder}
    (h : orderText (shape.order a) <:+ orderText (shape.order b)) : a = b := by
  have hapart := fun files hfiles => List.all_eq_true.mp (List.all_eq_true.mp
    (List.all_eq_true.mp orderTexts_apart a a.mem_all) b b.mem_all) files hfiles
  have hfiles : ∃ files ∈ [[], Shape.fileOrder], ∀ sort,
      shape.order sort = Shape.albumOrder sort ++ files := by
    cases shape with
    | albums | headers => exact ⟨[], by simp, fun sort => (List.append_nil _).symm⟩
    | tracks | albumTracks => exact ⟨Shape.fileOrder, by simp, fun sort => rfl⟩
  obtain ⟨files, hmem, horder⟩ := hfiles
  rw [horder, horder] at h
  have hboth := hapart files hmem
  rw [List.isSuffixOf_iff_suffix.mpr h] at hboth
  simpa using hboth

/-! ## The source -/

/-- What a restriction to a source adds behind other conditions, or behind none. -/
def sourceText (isFirst : Bool) (source : Option SourceFilter) : List Char :=
  source.elim [] fun source =>
    (if isFirst then " WHERE " else " AND ").toList ++
      (Predicate.sourceCondition source).render.chars

theorem nodup_sourceTexts :
    ∀ isFirst, ((none :: SourceFilter.all.map some).map (sourceText isFirst)).Nodup := by
  decide +kernel

/-- The text of a restriction names the source. -/
theorem eq_of_sourceText_eq {isFirst : Bool} {source other : Option SourceFilter}
    (h : sourceText isFirst source = sourceText isFirst other) : source = other := by
  have hmem : ∀ source : Option SourceFilter, source ∈ none :: SourceFilter.all.map some := by
    intro source
    rcases source with _ | source
    · decide
    · cases source <;> decide
  exact List.inj_on_of_nodup_map (nodup_sourceTexts isFirst) (hmem source) (hmem other) h

theorem joined_append_singleton (separator : String) (parts : List Rendered) (part : Rendered)
    (hparts : parts ≠ []) :
    Rendered.joined separator (parts ++ [part]) =
      Rendered.joined separator parts ++ .text separator :: part := by
  induction parts with
  | nil => exact absurd rfl hparts
  | cons first parts ih =>
      cases parts with
      | nil => rfl
      | cons next parts =>
          have hjoined := ih (List.cons_ne_nil next parts)
          show first ++ .text separator :: Rendered.joined separator (next :: parts ++ [part]) = _
          rw [hjoined, ← List.cons_append, ← List.append_assoc]
          rfl

/-- A restriction to a source is written behind the other conditions. -/
theorem chars_renderWhere_source (ps : List Predicate) (source : Option SourceFilter) :
    (renderWhere Subselect.render
        ((ps ++ (source.map Predicate.fromSource).toList).map Predicate.condition)).chars =
      (renderWhere Subselect.render (ps.map Predicate.condition)).chars ++
        sourceText ps.isEmpty source := by
  cases source with
  | none => simp [sourceText]
  | some source =>
      cases ps with
      | nil => rfl
      | cons p ps =>
          have hjoined := joined_append_singleton " AND "
            (((p :: ps).map Predicate.condition).map (Condition.render Subselect.render))
            (Predicate.sourceCondition source).render (by simp)
          have hmap : ((p :: ps ++ ((some source).map Predicate.fromSource).toList).map
              Predicate.condition).map (Condition.render Subselect.render) =
              ((p :: ps).map Predicate.condition).map (Condition.render Subselect.render) ++
                [(Predicate.sourceCondition source).render] := by
            simp [Predicate.condition, Test.render]
          show Rendered.chars (.text " WHERE " :: Rendered.joined " AND " _) = _
          rw [hmap, hjoined, ← List.cons_append, Rendered.chars_append]
          rfl

/-! ## Queries -/

/-- The predicates of a filter but for its source. -/
def FilterSpec.boundPredicates (spec : FilterSpec) (shape : Shape) : List Predicate :=
  (shape.album?.map Predicate.ofAlbum).toList ++
    (spec.searchText.map fun text =>
      Predicate.textMatch text shape.textColumns shape.tagScope).toList ++
    unlessEmpty (.allTags shape.tagScope) spec.includeTags.toList ++
    unlessEmpty (.noTag shape.tagScope) spec.excludeTags.toList ++
    actorPredicates spec.actorKeys.toList ++
    unlessEmpty .anyCircle spec.circles.toList

/-- The text of a query before its conditions. -/
def headText (shape : Shape) (sort : SortOrder) : List Char :=
  Rendered.chars (.text "SELECT " :: Rendered.joined ", " (shape.items.map Item.render) ++
    .text " FROM " :: (shape.source sort).render Union.render)

/-- The text of groups between the conditions and the order of a query. -/
def groupText (shape : Shape) : List Char :=
  (Select.renderGroupBy shape.groupBy).chars

namespace LibraryQuery

theorem chars_compile (spec : FilterSpec) (shape : Shape) :
    (compile shape spec).statement.render.chars =
      headText shape spec.sort ++
        (renderWhere Subselect.render
          ((spec.boundPredicates shape).map Predicate.condition)).chars ++
        sourceText (spec.boundPredicates shape).isEmpty spec.effectiveSource ++
        groupText shape ++ orderText (shape.order spec.sort) := by
  have hpredicates : spec.predicates shape = spec.boundPredicates shape ++
      (spec.effectiveSource.map Predicate.fromSource).toList := predicates_eq spec shape
  have horder : (Select.renderOrderBy (shape.order spec.sort)).chars =
      orderText (shape.order spec.sort) := by
    cases shape <;> cases spec.sort <;> rfl
  have hrender : (compile shape spec).statement.render.chars =
      headText shape spec.sort ++
        (renderWhere Subselect.render ((spec.predicates shape).map Predicate.condition)).chars ++
        groupText shape ++ orderText (shape.order spec.sort) := by
    rw [← horder, headText, groupText, ← Rendered.chars_append, ← Rendered.chars_append,
      ← Rendered.chars_append]
    rfl
  rw [hrender, hpredicates, chars_renderWhere_source, ← List.append_assoc]

/-- With the same values bound, the text determines the order and the source. -/
theorem eq_of_chars_eq {spec other : FilterSpec} {shape : Shape}
    (hbound : spec.boundPredicates shape = other.boundPredicates shape)
    (h : (compile shape spec).statement.render.chars =
      (compile shape other).statement.render.chars) :
    spec.sort = other.sort ∧ spec.effectiveSource = other.effectiveSource := by
  have hends : ∀ spec : FilterSpec, orderText (shape.order spec.sort) <:+
      (compile shape spec).statement.render.chars := by
    intro spec
    rw [chars_compile]
    exact List.suffix_append _ _
  have hsort : spec.sort = other.sort := by
    -- both orders end the same text, so one of them ends the other
    rcases List.suffix_or_suffix_of_suffix (h ▸ hends spec) (hends other) with hsuffix | hsuffix
    · exact eq_of_orderText_suffix hsuffix
    · exact (eq_of_orderText_suffix hsuffix).symm
  refine ⟨hsort, ?_⟩
  rw [chars_compile, chars_compile, hsort, hbound] at h
  have hsource := List.append_cancel_left
    (List.append_cancel_right (List.append_cancel_right h))
  exact eq_of_sourceText_eq hsource

/-- **Filters have the same query exactly if they agree.**  A query is its text and its arguments;
its shape is the same from the start. -/
theorem same_query_iff (shape : Shape) (spec other : FilterSpec) :
    ((compile shape spec).statement.sql = (compile shape other).statement.sql ∧
      (compile shape spec).statement.arguments = (compile shape other).statement.arguments) ↔
      spec.Agrees other := by
  rw [FilterSpec.agrees_iff]
  constructor
  · rintro ⟨hsql, harguments⟩
    have hspec := Binds.compile spec shape
    have hother := Binds.compile other shape
    have hbindings : spec.bindings shape = other.bindings shape := by
      have hsites := hspec.sites_sql.symm.trans ((congrArg sites hsql).trans hother.sites_sql)
      have hvalues := hspec.arguments.symm.trans (harguments.trans hother.arguments)
      have hfirst : (spec.bindings shape).map Prod.fst = (other.bindings shape).map Prod.fst := by
        apply (List.map_inj_right fun _ _ => Option.some.inj).mp
        rw [List.map_map, List.map_map]
        exact hsites
      rw [List.zip_of_prod hfirst hvalues]
      exact (List.zip_of_prod rfl rfl).symm
    obtain ⟨htext, hincluded, hexcluded, hactors, hcircles⟩ := eq_of_bindings_eq hbindings
    have hbound : spec.boundPredicates shape = other.boundPredicates shape := by
      unfold FilterSpec.boundPredicates
      rw [htext, hincluded, hexcluded, hactors, hcircles]
    have hchars : (compile shape spec).statement.render.chars =
        (compile shape other).statement.render.chars := by
      rw [← Rendered.toList_sql, ← Rendered.toList_sql]
      exact congrArg String.toList hsql
    obtain ⟨hsort, hsource⟩ := eq_of_chars_eq hbound hchars
    exact ⟨htext, hincluded, hexcluded, hactors, hcircles, hsource, hsort⟩
  · rintro ⟨htext, hincluded, hexcluded, hactors, hcircles, hsource, hsort⟩
    have hpredicates : spec.predicates shape = other.predicates shape := by
      rw [predicates_eq, predicates_eq, htext, hincluded, hexcluded, hactors, hcircles, hsource]
    have hcompile : compile shape spec = compile shape other := by
      unfold compile
      rw [hpredicates, hsort]
    rw [hcompile]
    exact ⟨rfl, rfl⟩

end LibraryQuery

end AudioLibrary
