import AudioLibrary.Proofs.Query.Predicates
import AudioLibrary.Proofs.Query.RowPredicates
import AudioLibrary.Proofs.Query.Rows

/-!
# What the conditions of a query ask

`FilterSpec.Selects` says what the conditions for a filter ask of a row, an album or a track with
its album, part by part.  The store need not hold texts where texts belong: a text is looked for in
whatever value stands in its sites, as patterns are matched.

The conditions of a query hold of a row exactly if the filter selects it, `passes_iff_selects`.
The sort is not among the parts, and the store counts only through what it has.
-/

namespace AudioLibrary

open AudioLibrary.Relational

/-! ## What a filter selects -/

/-- The texts in which a search looks, apart from the names of tags. -/
def Shape.columnSites (shape : Shape) (s : Store) (row : Row) : List Value :=
  ["title", "circle", "cv", "rj_code", "work_id"].map (shape.albumOf s row).value ++
    if shape = .albums then [] else [row.value "title"]

/-- The names of the tags of a row. -/
def Shape.tagNames (shape : Shape) (s : Store) (row : Row) : List Value :=
  ((s.rows .tags).filter fun tag => tag.value "id" ∈ shape.tagScope.tagsOf s row).map
    fun tag => tag.value "name"

/-- What the store makes of the credits of an album to look for keys in it. -/
def creditsValue (album : Row) : Value := (creditField (.col "a" "cv")).eval [("a", album)]

/-- Whether the conditions for a filter select a row: an album, or a track with its album. -/
structure FilterSpec.Selects (spec : FilterSpec) (s : Store) (shape : Shape) (row : Row) :
    Prop where
  album : ∀ id, shape.album? = some id → row.value "album_id" = .integer id.value
  text : ∀ word, spec.searchText = some word →
    ∃ v ∈ shape.columnSites s row ++ shape.tagNames s row,
      (Condition.likeTruth v (Predicate.containing word).toValue).holds = true
  included : ∀ id ∈ spec.includeTags, .integer id.value ∈ shape.tagScope.tagsOf s row
  excluded : ∀ id ∈ spec.excludeTags, .integer id.value ∉ shape.tagScope.tagsOf s row
  actors : spec.actorKeys = ∅ ∨ ∃ key ∈ spec.actorKeys,
    (Condition.likeTruth (creditsValue (shape.albumOf s row))
      (Predicate.listing key).toValue).holds = true
  circles : spec.circles = ∅ ∨
    ∃ circle ∈ spec.circles, (shape.albumOf s row).value "circle" = .text circle
  source : ∀ source, spec.source = some source →
    Predicate.HasSource (shape.albumOf s row) source

theorem SortedSet.toList_eq_nil_iff {α : Type} [Ord α] [Std.LawfulEqOrd α] [Std.TransOrd α]
    {set : SortedSet α} : set.toList = [] ↔ set = ∅ := by
  constructor
  · intro h
    ext a
    rw [SortedSet.mem_def, h]
    exact iff_of_false List.not_mem_nil (SortedSet.not_mem_empty a)
  · rintro rfl
    rfl

theorem SortedSet.insert_ne_empty {α : Type} [Ord α] [Std.LawfulEqOrd α] [Std.TransOrd α]
    (set : SortedSet α) (a : α) : set.insert a ≠ ∅ := by
  intro hnone
  have hmem : a ∈ set.insert a := SortedSet.mem_insert.2 (Or.inl rfl)
  rw [hnone] at hmem
  exact SortedSet.not_mem_empty a hmem

theorem FilterSpec.mem_actorKeys_iff (spec : FilterSpec) (k : String) :
    k ∈ spec.actorKeys ↔ ∃ name ∈ spec.voiceActors,
      Credits.key name.toList ≠ [] ∧ String.ofList (Credits.key name.toList) = k := by
  unfold FilterSpec.actorKeys
  rw [SortedSet.mem_ofList, List.mem_filter, List.mem_map]
  constructor
  · rintro ⟨⟨name, hname, rfl⟩, hne⟩
    exact ⟨name, hname, by simpa using hne, rfl⟩
  · rintro ⟨name, hname, hne, rfl⟩
    exact ⟨⟨name, hname, rfl⟩, by simpa using hne⟩

/-- There are no keys if every name is without one. -/
theorem FilterSpec.actorKeys_eq_empty_iff (spec : FilterSpec) :
    spec.actorKeys = ∅ ↔ ∀ name ∈ spec.voiceActors, Credits.key name.toList = [] := by
  constructor
  · intro h name hname
    by_contra hne
    have hkey := (spec.mem_actorKeys_iff _).2 ⟨name, hname, hne, rfl⟩
    rw [h] at hkey
    exact SortedSet.not_mem_empty _ hkey
  · intro h
    ext key
    refine iff_of_false (fun hkey => ?_) (SortedSet.not_mem_empty key)
    obtain ⟨name, hname, hne, -⟩ := (spec.mem_actorKeys_iff key).1 hkey
    exact hne (h name hname)

/-! ## The conditions of a query -/

namespace Shape

variable {s : Store} {spec : FilterSpec} {row : Row}

theorem table_tagScope (shape : Shape) : shape.tagScope.table = shape.table := by
  cases shape <;> rfl

theorem lookup_subject (shape : Shape) (s : Store) (sort : SortOrder) (row : Row) :
    (shape.scope s sort row).lookup shape.tagScope.subjectName = some row := by
  rw [lookup_scope]
  · cases shape <;> rfl
  · cases shape <;> simp [tagScope, TagScope.subjectName]

theorem lookup_album (shape : Shape) (s : Store) (sort : SortOrder) (row : Row) :
    (shape.scope s sort row).lookup "a" = some (shape.albumOf s row) := by
  rw [lookup_scope shape s sort row (by decide), lookup_baseScope]

/-- The searched columns have the values in which a search looks. -/
theorem map_eval_textColumns (shape : Shape) (s : Store) (sort : SortOrder) (row : Row) :
    shape.textColumns.map (fun column => column.eval (shape.scope s sort row)) =
      shape.columnSites s row := by
  have halbum : albumTextColumns.map (fun column => column.eval (shape.scope s sort row)) =
      ["title", "circle", "cv", "rj_code", "work_id"].map (shape.albumOf s row).value := by
    unfold albumTextColumns
    rw [List.map_map]
    refine List.map_congr_left fun column _ => ?_
    rw [Function.comp_apply, eval_col, lookup_album, Option.getD_some]
  have htitle : shape ≠ .albums →
      (Expr.col "t" "title").eval (shape.scope s sort row) = row.value "title" := by
    intro hshape
    have hsubject := lookup_subject shape s sort row
    have hname : shape.tagScope.subjectName = "t" := by
      cases shape <;> first | rfl | exact absurd rfl hshape
    rw [hname] at hsubject
    rw [eval_col, hsubject, Option.getD_some]
  unfold columnSites
  rw [← halbum]
  cases shape with
  | albums => exact (List.append_nil _).symm
  | tracks | headers | albumTracks =>
      rw [if_neg (by simp), ← htitle (by simp)]
      exact List.map_append

theorem holds_ofAlbum_iff (hs : s.Sound) {id : AlbumId} (hrow : row ∈ s.rows .tracks)
    (sort : SortOrder) :
    (Predicate.ofAlbum id).Holds s ((albumTracks id).scope s sort row) ↔
      row.value "album_id" = .integer id.value := by
  obtain ⟨i, hi, -⟩ := hs.exists_referred .tracks "album_id" .albums (by decide) hrow
  have hlookup : ((albumTracks id).scope s sort row).lookup "t" = some row :=
    lookup_subject (albumTracks id) s sort row
  unfold Predicate.Holds Test.eval Predicate.condition Condition.eval
  rw [eval_col, hlookup, Option.getD_some, hi]
  simp [Expr.eval, Argument.toValue]

theorem holds_textMatch_iff (hs : s.Sound) (shape : Shape) (hrow : row ∈ s.rows shape.table)
    (sort : SortOrder) (word : String) :
    (Predicate.textMatch word shape.textColumns shape.tagScope).Holds s
        (shape.scope s sort row) ↔
      ∃ v ∈ shape.columnSites s row ++ shape.tagNames s row,
        (Condition.likeTruth v (Predicate.containing word).toValue).holds = true := by
  rw [Predicate.holds_textMatch_iff_like, Predicate.holds_taggedLike_iff hs
    (shape.table_tagScope ▸ hrow) (lookup_subject shape s sort row),
    ← map_eval_textColumns shape s sort row]
  constructor
  · rintro (⟨column, hcolumn, hlike⟩ | ⟨tag, htag, hid, hlike⟩)
    · exact ⟨_, List.mem_append_left _ (List.mem_map_of_mem hcolumn), hlike⟩
    · refine ⟨tag.value "name", List.mem_append_right _ (List.mem_map.2 ⟨tag, ?_, rfl⟩), hlike⟩
      exact List.mem_filter.2 ⟨htag, decide_eq_true hid⟩
  · rintro ⟨v, hv, hlike⟩
    rcases List.mem_append.1 hv with hv | hv
    · obtain ⟨column, hcolumn, rfl⟩ := List.mem_map.1 hv
      exact Or.inl ⟨column, hcolumn, hlike⟩
    · obtain ⟨tag, htag, rfl⟩ := List.mem_map.1 hv
      obtain ⟨htag, hid⟩ := List.mem_filter.1 htag
      exact Or.inr ⟨tag, htag, of_decide_eq_true hid, hlike⟩

/-- The value of the credits depends on the album in scope alone. -/
theorem eval_credits (shape : Shape) (s : Store) (sort : SortOrder) (row : Row) :
    (creditField (.col "a" "cv")).eval (shape.scope s sort row) =
      creditsValue (shape.albumOf s row) := by
  have hfield : (Expr.col "a" "cv").eval (shape.scope s sort row) =
      (Expr.col "a" "cv").eval [("a", shape.albumOf s row)] := by
    rw [eval_col, eval_col, lookup_album]
    rfl
  unfold creditsValue creditField strippedExprs Credits.strippedChars
  simp only [List.map_cons, List.map_nil, List.foldl_cons, List.foldl_nil, Expr.eval, hfield]
  rfl

end Shape

/-! ## The parts of a filter -/

section Parts

open Shape

variable {s : Store} {spec : FilterSpec} {row : Row}

theorem forall_holds_actors_iff (shape : Shape) (sort : SortOrder) (spec : FilterSpec) :
    (∀ p ∈ actorPredicates spec.actorKeys.toList, p.Holds s (shape.scope s sort row)) ↔
      spec.actorKeys = ∅ ∨ ∃ key ∈ spec.actorKeys,
        (Condition.likeTruth (creditsValue (shape.albumOf s row))
          (Predicate.listing key).toValue).holds = true := by
  have hmem : ∀ key, key ∈ spec.actorKeys ↔ key ∈ spec.actorKeys.toList :=
    fun _ => SortedSet.mem_def
  simp only [hmem, ← SortedSet.toList_eq_nil_iff]
  -- names may all be without a key, and then there is no predicate at all
  cases spec.actorKeys.toList with
  | nil => exact iff_of_true (by simp [actorPredicates]) (Or.inl rfl)
  | cons key others =>
      rw [actorPredicates, List.forall_mem_singleton, Predicate.holds_anyActor_iff_like,
        eval_credits, or_iff_right (List.cons_ne_nil _ _)]

theorem forall_holds_included_iff (hs : s.Sound) (shape : Shape)
    (hrow : row ∈ s.rows shape.table) (sort : SortOrder) (ids : SortedSet TagId) :
    (∀ p ∈ unlessEmpty (Predicate.allTags shape.tagScope) ids.toList,
        p.Holds s (shape.scope s sort row)) ↔
      ∀ id ∈ ids, .integer id.value ∈ shape.tagScope.tagsOf s row := by
  have hholds := fun hne => Predicate.holds_allTags_iff hs (shape.table_tagScope ▸ hrow)
    (lookup_subject shape s sort row) ids.nodup_toList hne
  rw [forall_unlessEmpty_iff]
  constructor
  · intro h id hid
    have hne := List.ne_nil_of_mem (SortedSet.mem_def.1 hid)
    exact (hholds hne).1 (h hne) id hid
  · intro h hne
    exact (hholds hne).2 h

theorem forall_holds_excluded_iff (hs : s.Sound) (shape : Shape)
    (hrow : row ∈ s.rows shape.table) (sort : SortOrder) (ids : SortedSet TagId) :
    (∀ p ∈ unlessEmpty (Predicate.noTag shape.tagScope) ids.toList,
        p.Holds s (shape.scope s sort row)) ↔
      ∀ id ∈ ids, .integer id.value ∉ shape.tagScope.tagsOf s row := by
  have hholds := Predicate.holds_noTag_iff hs (shape.table_tagScope ▸ hrow)
    (lookup_subject shape s sort row) ids.toList
  rw [forall_unlessEmpty_iff]
  constructor
  · intro h id hid
    exact hholds.1 (h (List.ne_nil_of_mem (SortedSet.mem_def.1 hid))) id hid
  · intro h _
    exact hholds.2 h

theorem forall_holds_circles_iff (shape : Shape) (sort : SortOrder) (circles : SortedSet String) :
    (∀ p ∈ unlessEmpty Predicate.anyCircle circles.toList, p.Holds s (shape.scope s sort row)) ↔
      circles = ∅ ∨ ∃ circle ∈ circles, (shape.albumOf s row).value "circle" = .text circle := by
  rw [forall_unlessEmpty_iff, Predicate.holds_anyCircle_iff (lookup_album shape s sort row),
    ne_eq, SortedSet.toList_eq_nil_iff, ← or_iff_not_imp_left]
  rfl

theorem forall_holds_source_iff (shape : Shape) (sort : SortOrder) (spec : FilterSpec) :
    (∀ p ∈ (spec.effectiveSource.map Predicate.fromSource).toList,
        p.Holds s (shape.scope s sort row)) ↔
      ∀ source, spec.source = some source →
        Predicate.HasSource (shape.albumOf s row) source := by
  have hholds := fun source =>
    Predicate.holds_fromSource_iff (s := s) (lookup_album shape s sort row) source
  unfold FilterSpec.effectiveSource
  cases spec.source with
  | none => simp
  | some source =>
      cases source with
      | both => simp [Predicate.HasSource]
      | localOnly | downloadOnly | localAndDownload => simp [hholds]

theorem forall_holds_text_iff (hs : s.Sound) (shape : Shape)
    (hrow : row ∈ s.rows shape.table) (sort : SortOrder) (spec : FilterSpec) :
    (∀ p ∈ (spec.searchText.map fun text =>
        Predicate.textMatch text shape.textColumns shape.tagScope).toList,
          p.Holds s (shape.scope s sort row)) ↔
      ∀ word, spec.searchText = some word →
        ∃ v ∈ shape.columnSites s row ++ shape.tagNames s row,
          (Condition.likeTruth v (Predicate.containing word).toValue).holds = true := by
  have hholds := holds_textMatch_iff hs shape hrow sort
  cases spec.searchText with
  | none => simp
  | some word =>
      rw [Option.map_some, Option.toList_some, List.forall_mem_singleton, hholds]
      simp

theorem forall_holds_album_iff (hs : s.Sound) (shape : Shape) (hrow : row ∈ s.rows shape.table)
    (sort : SortOrder) :
    (∀ p ∈ (shape.album?.map Predicate.ofAlbum).toList, p.Holds s (shape.scope s sort row)) ↔
      ∀ id, shape.album? = some id → row.value "album_id" = .integer id.value := by
  cases shape with
  | albums | tracks | headers => simp [album?]
  | albumTracks id =>
      rw [album?, Option.map_some, Option.toList_some, List.forall_mem_singleton,
        holds_ofAlbum_iff hs hrow]
      simp

/-- **The conditions of a query hold of a row exactly if the filter selects it.** -/
theorem passes_iff_selects (hs : s.Sound) (shape : Shape) (hrow : row ∈ s.rows shape.table)
    (spec : FilterSpec) : shape.passes s spec row = true ↔ spec.Selects s shape row := by
  have hall : shape.passes s spec row = true ↔
      ∀ p ∈ spec.predicates shape, p.Holds s (shape.scope s spec.sort row) := by
    unfold passes
    rw [Condition.allHold_iff, List.forall_mem_map]
    rfl
  rw [hall, predicates_eq]
  simp only [List.forall_mem_append]
  rw [forall_holds_album_iff hs shape hrow, forall_holds_text_iff hs shape hrow,
    forall_holds_included_iff hs shape hrow, forall_holds_excluded_iff hs shape hrow,
    forall_holds_actors_iff, forall_holds_circles_iff, forall_holds_source_iff]
  constructor
  · rintro ⟨⟨⟨⟨⟨⟨halbum, htext⟩, hincluded⟩, hexcluded⟩, hactors⟩, hcircles⟩, hsource⟩
    exact ⟨halbum, htext, hincluded, hexcluded, hactors, hcircles, hsource⟩
  · rintro ⟨halbum, htext, hincluded, hexcluded, hactors, hcircles, hsource⟩
    exact ⟨⟨⟨⟨⟨⟨halbum, htext⟩, hincluded⟩, hexcluded⟩, hactors⟩, hcircles⟩, hsource⟩

end Parts

/-! ## Filters by name alone -/

namespace FilterSpec

variable {s : Store} {album : Row}

/-- What a filter by names alone selects. -/
theorem selects_names_iff (voiceActors circles : SortedSet String) :
    ({ voiceActors, circles } : FilterSpec).Selects s .albums album ↔
      (({ voiceActors, circles } : FilterSpec).actorKeys = ∅ ∨
        ∃ key ∈ ({ voiceActors, circles } : FilterSpec).actorKeys,
          (Condition.likeTruth (creditsValue album) (Predicate.listing key).toValue).holds =
            true) ∧
      (circles = ∅ ∨ ∃ circle ∈ circles, album.value "circle" = .text circle) := by
  constructor
  · intro h
    exact ⟨h.actors, h.circles⟩
  · rintro ⟨hactors, hcircles⟩
    exact
      { album := nofun
        text := nofun
        included := fun id hid => absurd hid (SortedSet.not_mem_empty id)
        excluded := fun id hid => absurd hid (SortedSet.not_mem_empty id)
        actors := hactors
        circles := hcircles
        source := nofun }

theorem actorKeys_of_none {circles : SortedSet String} :
    ({ circles } : FilterSpec).actorKeys = ∅ :=
  (actorKeys_eq_empty_iff _).2 fun name hname => absurd hname (SortedSet.not_mem_empty name)

/-- The filter without anything in it selects every album. -/
theorem selects_of_none : ({} : FilterSpec).Selects s .albums album :=
  (selects_names_iff ∅ ∅).2 ⟨Or.inl actorKeys_of_none, Or.inl rfl⟩

end FilterSpec

end AudioLibrary
