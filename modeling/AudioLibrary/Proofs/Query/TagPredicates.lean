import AudioLibrary.Proofs.Query.Tags
import AudioLibrary.Proofs.Relational.Distinct
import Mathlib.Data.List.Perm.Subperm

/-!
# Predicates about tags

A row has all tags of a list, none of them, or one with a name that is like a pattern.  A statement
asks for each by a subselect over the relation of items and tags.

All tags of a list are there if as many different ones are there as the list is long, the list
being free of repetitions.  The number is compared as a 64-bit integer, which no such list
outgrows, `ofNat_eq_iff`.

## Main statements

* `holds_allTags_iff`, `holds_noTag_iff`, `holds_taggedLike_iff`.
-/

namespace AudioLibrary.Predicate

open AudioLibrary.Relational

variable {s : Store} {tags : TagScope} {scope : Scope} {row : Row}

/-- Whether a predicate is true of what is in scope. -/
def Holds (p : Predicate) (s : Store) (scope : Scope) : Prop :=
  (Test.eval s.tables scope p.condition).holds = true

/-! ## Pairs with a tag of a list -/

/-- The pairs whose tag is one of a list. -/
def chosenPairs (tags : TagScope) (s : Store) (ids : List TagId) : List Row :=
  (tags.pairs s).filter fun pair => ids.any fun id => pair.value "tag_id" = .integer id.value

theorem mem_chosenPairs_iff {ids : List TagId} {pair : Row} :
    pair ∈ chosenPairs tags s ids ↔
      pair ∈ tags.pairs s ∧ ∃ id ∈ ids, pair.value "tag_id" = .integer id.value := by
  simp [chosenPairs]

/-- What a subselect over the pairs with a tag of a list reads. -/
theorem scopes_tagIn (hs : s.Sound) (ids : List TagId) (grouping : Option Grouping)
    (scope : Scope) :
    Subselect.scopes s.tables
        { item := tags.item, source := { relation := tags.relation }, conditions := [tagIn ids]
          grouping } scope =
      (chosenPairs tags s ids).map fun pair => ("et", pair) :: scope := by
  unfold Subselect.scopes chosenPairs
  rw [TagScope.scopes_relation, List.filter_map]
  congr 1
  refine List.filter_congr fun pair hpair => ?_
  obtain ⟨j, hj⟩ := (TagScope.numbers_of_mem_pairs hs tags hpair).2
  rw [Bool.eq_iff_iff, Function.comp_apply, Condition.allHold_iff]
  simp only [List.mem_singleton, forall_eq, tagIn, Condition.eval, holds_member_iff]
  simp [Argument.toValue, hj]

/-- A row has a tag of a list exactly if a chosen pair is about it. -/
theorem exists_chosenPair_iff (hs : s.Sound) (hrow : row ∈ s.rows tags.table)
    (ids : List TagId) (tag : Value) :
    (∃ pair ∈ chosenPairs tags s ids, pair.value tags.itemColumn = row.value "id" ∧
        pair.value "tag_id" = tag) ↔
      tag ∈ tags.tagsOf s row ∧ ∃ id ∈ ids, tag = .integer id.value := by
  rw [TagScope.mem_tagsOf_iff hs tags hrow]
  constructor
  · rintro ⟨pair, hpair, hitem, rfl⟩
    obtain ⟨hpair, hid⟩ := mem_chosenPairs_iff.1 hpair
    exact ⟨⟨pair, hpair, hitem, rfl⟩, hid⟩
  · rintro ⟨⟨pair, hpair, hitem, rfl⟩, hid⟩
    exact ⟨pair, mem_chosenPairs_iff.2 ⟨hpair, hid⟩, hitem, rfl⟩

theorem eval_subject (hlookup : scope.lookup tags.subjectName = some row) :
    tags.subject.eval scope = row.value "id" := by
  rw [TagScope.subject_eq, eval_col, hlookup, Option.getD_some]

theorem eval_item (pair : Row) (scope : Scope) :
    tags.item.eval (("et", pair) :: scope) = pair.value tags.itemColumn := by
  rw [TagScope.item, eval_col, List.lookup_cons_self, Option.getD_some]

/-! ## None of some tags -/

theorem holds_noTag_iff (hs : s.Sound) (hrow : row ∈ s.rows tags.table)
    (hlookup : scope.lookup tags.subjectName = some row) (ids : List TagId) :
    (noTag tags ids).Holds s scope ↔
      ∀ id ∈ ids, .integer id.value ∉ tags.tagsOf s row := by
  obtain ⟨i, hi⟩ := TagScope.number_of_mem hs tags hrow
  have hvalues : Subselect.values s.tables
      { item := tags.item, source := { relation := tags.relation }, conditions := [tagIn ids] }
      scope = (chosenPairs tags s ids).map fun pair => pair.value tags.itemColumn := by
    unfold Subselect.values
    simp only [scopes_tagIn hs, List.map_map]
    exact List.map_congr_left fun pair _ => eval_item pair scope
  unfold Holds Test.eval condition Condition.eval
  rw [hvalues, holds_not_member_iff, eval_subject hlookup]
  constructor
  · intro h id hid htag
    obtain ⟨pair, hpair, hitem, -⟩ := (exists_chosenPair_iff hs hrow _ _).2 ⟨htag, id, hid, rfl⟩
    have hdiffers := h _ (List.mem_map_of_mem hpair)
    rw [hitem, hi] at hdiffers
    simp at hdiffers
  · intro h item hmem
    obtain ⟨pair, hpair, rfl⟩ := List.mem_map.1 hmem
    obtain ⟨j, hj⟩ := (TagScope.numbers_of_mem_pairs hs tags (mem_chosenPairs_iff.1 hpair).1).1
    rw [hi, hj, equal_integer, Truth.holds_not_some]
    rw [Bool.not_eq_true', decide_eq_false_iff_not]
    rintro rfl
    obtain ⟨htag, id, hid, heq⟩ :=
      (exists_chosenPair_iff hs hrow _ _).1 ⟨pair, hpair, hj.trans hi.symm, rfl⟩
    exact h id hid (heq ▸ htag)

/-! ## All of some tags -/

/-- The pairs with a tag of a list that are about one item. -/
def groupOf (tags : TagScope) (s : Store) (ids : List TagId) (item : Value) : List Row :=
  (chosenPairs tags s ids).filter fun pair => pair.value tags.itemColumn = item

/-- The items of which the statement counts as many different tags as the list has. -/
theorem mem_values_allTags_iff (hs : s.Sound) (scope : Scope) (ids : List TagId) (v : Value) :
    v ∈ Subselect.values s.tables
        { item := tags.item, source := { relation := tags.relation }, conditions := [tagIn ids]
          grouping := some ⟨tags.item, .col "et" "tag_id", .integer (.ofNat ids.length)⟩ } scope ↔
      groupOf tags s ids v ≠ [] ∧
        Int64.ofNat (countDistinct ((groupOf tags s ids v).map
          fun pair => pair.value "tag_id")) = Int64.ofNat ids.length := by
  have hitem : ∀ pair : Row, tags.item.eval (("et", pair) :: scope) =
      pair.value tags.itemColumn := fun pair => eval_item pair scope
  have htag : ∀ pair : Row, (Expr.col "et" "tag_id").eval (("et", pair) :: scope) =
      pair.value "tag_id" := by
    intro pair
    rw [eval_col, List.lookup_cons_self, Option.getD_some]
  have hnumbers : AllNumbers ((chosenPairs tags s ids).map fun pair =>
      pair.value tags.itemColumn) := by
    intro v hv
    obtain ⟨pair, hpair, rfl⟩ := List.mem_map.1 hv
    exact (TagScope.numbers_of_mem_pairs hs tags (mem_chosenPairs_iff.1 hpair).1).1
  -- items are numbers, so being the same to the statement is being equal
  have hgroup : ∀ k : Int64, (chosenPairs tags s ids).filter
      (fun pair => (pair.value tags.itemColumn).same (.integer k)) =
        groupOf tags s ids (.integer k) := by
    intro k
    refine List.filter_congr fun pair hpair => ?_
    obtain ⟨j, hj⟩ := (TagScope.numbers_of_mem_pairs hs tags (mem_chosenPairs_iff.1 hpair).1).1
    rw [hj, same_integer]
    simp
  unfold Subselect.values
  simp only [scopes_tagIn hs, List.map_map, List.filter_map, Function.comp_def, hitem, htag]
  rw [List.mem_filterMap]
  constructor
  · rintro ⟨key, hkey, hsome⟩
    obtain ⟨k, rfl⟩ := hnumbers key (hnumbers.mem_distinctValues.1 hkey)
    rw [hgroup] at hsome
    split at hsome
    · next hsize =>
        rw [List.head?_map, Option.map_map, Option.map_eq_some_iff] at hsome
        obtain ⟨pair, hhead, heq⟩ := hsome
        have hpair := List.mem_of_mem_head? hhead
        have hk : pair.value tags.itemColumn = .integer k := by
          simpa [groupOf] using (List.mem_filter.1 hpair).2
        obtain rfl : .integer k = v := by
          rw [← heq, Function.comp_apply, hitem, hk]
        refine ⟨List.ne_nil_of_mem hpair, ?_⟩
        simpa [Argument.toValue] using hsize
    · simp at hsome
  · rintro ⟨hne, hsize⟩
    obtain ⟨pair, rest, hcons⟩ := List.exists_cons_of_ne_nil hne
    have hpair : pair ∈ groupOf tags s ids v := by simp [hcons]
    have hv : pair.value tags.itemColumn = v := by
      simpa [groupOf] using (List.mem_filter.1 hpair).2
    have hmem : v ∈ (chosenPairs tags s ids).map fun pair => pair.value tags.itemColumn := by
      rw [← hv]
      exact List.mem_map_of_mem (List.mem_filter.1 hpair).1
    obtain ⟨k, rfl⟩ := hnumbers v hmem
    refine ⟨.integer k, hnumbers.mem_distinctValues.2 hmem, ?_⟩
    rw [hgroup, if_pos (by simpa [Argument.toValue] using hsize), hcons]
    simp [hitem, hv]

/-- Among numbers that a list without repetitions can be long, those that agree as 64-bit integers
are the same. -/
theorem ofNat_eq_iff {m n : Nat} (hm : 0 < m) (hmn : m ≤ n) (hn : n ≤ 2 ^ 64) :
    Int64.ofNat m = Int64.ofNat n ↔ m = n := by
  constructor
  · intro h
    have hmod : m % 2 ^ 64 = n % 2 ^ 64 := by
      have hbits := congrArg (fun i : Int64 => i.toBitVec.toNat) h
      simpa using hbits
    omega
  · rintro rfl
    rfl

/-- There are no more tags than 64-bit integers. -/
theorem length_le_of_nodup {ids : List TagId} (hids : ids.Nodup) : ids.length ≤ 2 ^ 64 := by
  have hinj : Function.Injective fun id : TagId => id.value.toBitVec.toNat := by
    intro a b h
    have hvalue : a.value = b.value := Int64.toBitVec_inj.1 (BitVec.eq_of_toNat_eq h)
    cases a
    cases b
    exact congrArg TagId.mk hvalue
  have hsub : ids.map (fun id => id.value.toBitVec.toNat) ⊆ List.range (2 ^ 64) := by
    intro n hn
    obtain ⟨id, -, rfl⟩ := List.mem_map.1 hn
    exact List.mem_range.2 id.value.toBitVec.isLt
  have hlength := (List.subperm_of_subset (hids.map hinj) hsub).length_le
  rwa [List.length_map, List.length_range] at hlength

/-- What the statement asks of an item: that something is chosen for it, and as many different tags
as the list has. -/
theorem holds_allTags_iff_count (hs : s.Sound) (hrow : row ∈ s.rows tags.table)
    (hlookup : scope.lookup tags.subjectName = some row) (ids : List TagId) :
    (allTags tags ids).Holds s scope ↔
      groupOf tags s ids (row.value "id") ≠ [] ∧
        Int64.ofNat (countDistinct ((groupOf tags s ids (row.value "id")).map
          fun pair => pair.value "tag_id")) = Int64.ofNat ids.length := by
  obtain ⟨i, hi⟩ := TagScope.number_of_mem hs tags hrow
  rw [← mem_values_allTags_iff hs scope ids (row.value "id")]
  unfold Holds Test.eval condition Condition.eval
  rw [holds_member_iff, eval_subject hlookup]
  constructor
  · rintro ⟨w, hw, hequal⟩
    obtain ⟨pair, rest, hcons⟩ :=
      List.exists_cons_of_ne_nil ((mem_values_allTags_iff hs scope ids w).1 hw).1
    have hpair := List.mem_filter.1 (hcons ▸ List.mem_cons_self .. :
      pair ∈ groupOf tags s ids w)
    obtain ⟨j, hj⟩ := (TagScope.numbers_of_mem_pairs hs tags
      (mem_chosenPairs_iff.1 hpair.1).1).1
    obtain rfl : .integer j = w := by simpa [hj] using hpair.2
    rw [hi, equal_integer, Truth.holds_some, decide_eq_true_eq] at hequal
    rwa [hi, hequal]
  · intro hmem
    exact ⟨_, hmem, by simp [hi]⟩

/-- The tags that the statement finds for a row. -/
theorem mem_map_groupOf_iff (hs : s.Sound) (hrow : row ∈ s.rows tags.table) {ids : List TagId}
    {v : Value} :
    v ∈ (groupOf tags s ids (row.value "id")).map (fun pair => pair.value "tag_id") ↔
      v ∈ tags.tagsOf s row ∧ v ∈ ids.map fun id => Value.integer id.value := by
  have hiff := exists_chosenPair_iff hs hrow ids v
  rw [List.mem_map, List.mem_map]
  simp only [groupOf, List.mem_filter, decide_eq_true_eq, and_assoc, eq_comm (b := v)] at hiff ⊢
  exact hiff

theorem holds_allTags_iff (hs : s.Sound) (hrow : row ∈ s.rows tags.table)
    (hlookup : scope.lookup tags.subjectName = some row) {ids : List TagId} (hids : ids.Nodup)
    (hne : ids ≠ []) :
    (allTags tags ids).Holds s scope ↔
      ∀ id ∈ ids, .integer id.value ∈ tags.tagsOf s row := by
  -- the different tags found, and the tags asked for, are two lists without repetitions
  let found := (groupOf tags s ids (row.value "id")).map fun pair => pair.value "tag_id"
  let asked := ids.map fun id => Value.integer id.value
  have hnumbers : AllNumbers found := by
    intro v hv
    obtain ⟨pair, hpair, rfl⟩ := List.mem_map.1 hv
    exact (TagScope.numbers_of_mem_pairs hs tags
      (mem_chosenPairs_iff.1 (List.mem_filter.1 hpair).1).1).2
  have hasked : asked.Nodup := by
    refine hids.map fun a b h => ?_
    cases a
    cases b
    exact congrArg TagId.mk (Value.integer.inj h)
  have hmem : ∀ v, v ∈ distinctValues found ↔ v ∈ tags.tagsOf s row ∧ v ∈ asked := by
    intro v
    rw [hnumbers.mem_distinctValues]
    exact mem_map_groupOf_iff hs hrow
  have hsub : distinctValues found ⊆ asked := fun v hv => ((hmem v).1 hv).2
  have hsubperm := List.subperm_of_subset hnumbers.nodup_distinctValues hsub
  have hlength : asked.length = ids.length := List.length_map ..
  have hempty : groupOf tags s ids (row.value "id") ≠ [] ↔ 0 < (distinctValues found).length := by
    rw [List.length_pos_iff_exists_mem]
    simp only [hnumbers.mem_distinctValues]
    rw [← List.length_pos_iff_exists_mem, List.length_map, List.length_pos_iff]
  rw [holds_allTags_iff_count hs hrow hlookup, hempty]
  show _ ∧ Int64.ofNat (countDistinct found) = _ ↔ _
  rw [hnumbers.countDistinct_eq]
  constructor
  · rintro ⟨hpos, hsize⟩ id hid
    rw [ofNat_eq_iff hpos (hlength ▸ hsubperm.length_le) (length_le_of_nodup hids)] at hsize
    have hperm := hsubperm.perm_of_length_le (Nat.le_of_eq (hlength.trans hsize.symm))
    exact ((hmem _).1 (hperm.mem_iff.2 (List.mem_map_of_mem hid))).1
  · intro h
    have hback : asked ⊆ distinctValues found := by
      intro v hv
      obtain ⟨id, hid, rfl⟩ := List.mem_map.1 hv
      exact (hmem _).2 ⟨h id hid, hv⟩
    have hsize : (distinctValues found).length = ids.length := by
      have hle := (List.subperm_of_subset hasked hback).length_le
      have hge := hsubperm.length_le
      omega
    refine ⟨?_, by rw [hsize]⟩
    rw [hsize]
    exact List.length_pos_iff.2 hne

/-! ## A tag with a name that is like a pattern -/

/-- A tag of the row is in scope exactly if a pair leads to it. -/
theorem exists_pair_and_tag_iff (hs : s.Sound) (hrow : row ∈ s.rows tags.table) {tag : Row} :
    (∃ pair ∈ tags.pairs s, pair.value tags.itemColumn = row.value "id" ∧
        tag ∈ s.byNumber .tags (pair.value "tag_id")) ↔
      tag ∈ s.rows .tags ∧ tag.value "id" ∈ tags.tagsOf s row := by
  rw [TagScope.mem_tagsOf_iff hs tags hrow]
  constructor
  · rintro ⟨pair, hpair, hitem, htag⟩
    obtain ⟨j, hj⟩ := (TagScope.numbers_of_mem_pairs hs tags hpair).2
    rw [hj] at htag
    obtain ⟨htag, hid⟩ := hs.byNumber_eq_some_iff.1 htag
    exact ⟨htag, pair, hpair, hitem, hj.trans hid.symm⟩
  · rintro ⟨htag, pair, hpair, hitem, hid⟩
    obtain ⟨j, hj⟩ := (TagScope.numbers_of_mem_pairs hs tags hpair).2
    refine ⟨pair, hpair, hitem, ?_⟩
    rw [hj]
    exact hs.byNumber_eq_some_iff.2 ⟨htag, hid.symm.trans hj⟩

/-- Each pair is read with the tag that it leads to. -/
theorem scopes_taggedLike (hs : s.Sound) (tags : TagScope) (scope : Scope) :
    Source.scopes s.tables (Union.rows s.tables) scope
      { relation := tags.relation
        joins := [{ table := ⟨"tags", some "tg"⟩
                    on := .equals (.col "tg" "id") (.col "et" "tag_id") }] } =
      (tags.pairs s).flatMap fun pair => (s.byNumber .tags (pair.value "tag_id")).toList.map
        fun tag => ("tg", tag) :: ("et", pair) :: scope := by
  have hjoin := Source.scopes_append_joins s.tables (Union.rows s.tables) scope tags.relation []
    { table := ⟨"tags", some "tg"⟩, on := .equals (.col "tg" "id") (.col "et" "tag_id") }
  rw [List.nil_append, TagScope.scopes_relation, List.flatMap_map] at hjoin
  rw [hjoin]
  refine List.flatMap_congr fun pair hpair => ?_
  obtain ⟨j, hj⟩ := (TagScope.numbers_of_mem_pairs hs tags hpair).2
  have hvalue : ((((("et", pair) :: scope).lookup "et").getD []).value "tag_id") =
      .integer j := by
    rw [List.lookup_cons_self, Option.getD_some, hj]
  have hextend := hs.extend_number .tags false "tg" "et" "tag_id" (by decide) hvalue
  rw [hj]
  exact hextend

theorem allHold_taggedLike_iff (hs : s.Sound) (hrow : row ∈ s.rows tags.table)
    (hlookup : scope.lookup tags.subjectName = some row) (pattern : Argument) {pair : Row}
    (hpair : pair ∈ tags.pairs s) (tag : Row) :
    Condition.allHold Empty.elim (("tg", tag) :: ("et", pair) :: scope)
        [.equals tags.item tags.subject, .like (.col "tg" "name") (.argument pattern)] = true ↔
      pair.value tags.itemColumn = row.value "id" ∧
        (Condition.likeTruth (tag.value "name") pattern.toValue).holds = true := by
  obtain ⟨i, hi⟩ := TagScope.number_of_mem hs tags hrow
  obtain ⟨j, hj⟩ := (TagScope.numbers_of_mem_pairs hs tags hpair).1
  -- the scopes of pair and tag are in front and hide no name of the row's own
  have hsubject : tags.subject.eval (("tg", tag) :: ("et", pair) :: scope) = row.value "id" := by
    refine eval_subject ?_
    cases tags <;> exact hlookup
  have hitem : tags.item.eval (("tg", tag) :: ("et", pair) :: scope) =
      pair.value tags.itemColumn := by
    rw [TagScope.item, eval_col]
    rfl
  have hname : (Expr.col "tg" "name").eval (("tg", tag) :: ("et", pair) :: scope) =
      tag.value "name" := by
    rw [eval_col, List.lookup_cons_self, Option.getD_some]
  rw [Condition.allHold_iff]
  simp only [List.mem_cons, List.not_mem_nil, or_false, forall_eq_or_imp, forall_eq,
    Condition.eval, hsubject, hitem, hname, hi, hj, equal_integer, Truth.holds_some,
    decide_eq_true_eq, Value.integer.injEq]
  rfl

theorem holds_taggedLike_iff (hs : s.Sound) (hrow : row ∈ s.rows tags.table)
    (hlookup : scope.lookup tags.subjectName = some row) (pattern : Argument) :
    (Test.eval s.tables scope (taggedLike tags pattern)).holds = true ↔
      ∃ tag ∈ s.rows .tags, tag.value "id" ∈ tags.tagsOf s row ∧
        (Condition.likeTruth (tag.value "name") pattern.toValue).holds = true := by
  unfold Test.eval taggedLike Condition.eval Subselect.values
  rw [Truth.holds_some, Bool.not_eq_true', List.isEmpty_eq_false_iff_exists_mem]
  simp only [List.mem_map, Subselect.scopes, scopes_taggedLike hs, List.mem_filter,
    List.mem_flatMap]
  constructor
  · rintro ⟨-, inner, ⟨⟨pair, hpair, tag, htag, rfl⟩, hholds⟩, -⟩
    obtain ⟨hitem, hlike⟩ := (allHold_taggedLike_iff hs hrow hlookup pattern hpair tag).1 hholds
    obtain ⟨hmem, hid⟩ := (exists_pair_and_tag_iff hs hrow).1
      ⟨pair, hpair, hitem, Option.mem_toList.1 htag⟩
    exact ⟨tag, hmem, hid, hlike⟩
  · rintro ⟨tag, hmem, hid, hlike⟩
    obtain ⟨pair, hpair, hitem, htag⟩ := (exists_pair_and_tag_iff hs hrow).2 ⟨hmem, hid⟩
    exact ⟨_, _, ⟨⟨pair, hpair, tag, Option.mem_toList.2 htag, rfl⟩,
      (allHold_taggedLike_iff hs hrow hlookup pattern hpair tag).2 ⟨hitem, hlike⟩⟩, rfl⟩

end AudioLibrary.Predicate
