import AudioLibrary.Proofs.Query.VoiceActors

/-!
# Credits in statements

A statement brings the credits of an album into normal form itself, and looks there for the keys of
a filter.  What it has is not quite the normal form, `creditField_value`: some runs of commas
remain.  Since no key is empty this does not count, and so the clause for voice actors says of names
what their keys say, `anyActor_iff`.

Patterns compare keys, and they take U+FFFE, U+FFFF and U+FFFD for one character.  The clause tries
its patterns in order, and cannot be evaluated where it comes to one that is too long.
-/

namespace AudioLibrary

open AudioLibrary.Relational

/-! ## The value of a credit field -/

namespace Predicate

/-- **What a statement makes of credits.**  It drops blanks, makes commas plain and letters small as
the normal form does, but of each pair of commas, from left to right, it only makes one.  Up to
empty texts the same stands between the commas.  The two are the same text unless a comma begins
or ends the folded text, or three stand there in a row. -/
theorem creditField_value {field : Expr} {scope : Scope} {text : String}
    (hfield : field.eval scope = .text text ∨ field.eval scope = .null ∧ text = "") :
    ∃ value, (creditField field).eval scope = .text (String.ofList value) ∧
      value = Credits.separator ::
        replaceAll [Credits.separator, Credits.separator] [Credits.separator]
          (Credits.fold text.toList) ++ [Credits.separator] ∧
      Credits.field text.toList = Credits.separator :: List.intercalate [Credits.separator]
        ((value.splitOnP (· = Credits.separator)).filter (· ≠ [])) ++ [Credits.separator] ∧
      (value = Credits.field text.toList ↔
        (Credits.fold text.toList).head? ≠ some Credits.separator ∧
        (Credits.fold text.toList).getLast? ≠ some Credits.separator ∧
        ¬ [Credits.separator, Credits.separator, Credits.separator] <:+:
          Credits.fold text.toList) := by
  have hifNull : (Expr.ifNull field (.literal "")).eval scope = .text text := by
    rcases hfield with hvalue | ⟨hvalue, rfl⟩
    · rw [Expr.eval, hvalue]
      rfl
    · rw [Expr.eval, hvalue]
      rfl
  refine ⟨Credits.creditText text.toList, eval_creditField_of_ifNull hifNull,
    Credits.creditText_eq _, ?_, Credits.creditText_eq_field_iff _⟩
  rw [Credits.filter_splitOnP_creditText]
  rfl

/-- Blanks go, a wide comma becomes a plain one, and of the two commas that stand together then one
is left, as in the normal form. -/
theorem creditField_value_untidy :
    let field := Expr.col "a" "cv"
    let text := " Aoi Yuki，, Mio\t"
    let scope : Scope := [("a", [("cv", .text text)])]
    (field.eval scope = .text text ∨ field.eval scope = .null ∧ text = "") ∧
      (creditField field).eval scope = .text ",aoiyuki,mio," ∧
      String.ofList (Credits.field text.toList) = ",aoiyuki,mio," := by
  intro field text scope
  have hfield : field.eval scope = .text text ∨ field.eval scope = .null ∧ text = "" :=
    Or.inl rfl
  have hnormal : Credits.field text.toList = ",aoiyuki,mio,".toList := by decide
  obtain ⟨value, hvalue, -, -, hsame⟩ := creditField_value hfield
  refine ⟨hfield, ?_, ?_⟩
  · rw [hvalue, hsame.2 (by decide), hnormal, String.ofList_toList]
  · rw [hnormal, String.ofList_toList]

/-- A comma in front of a name stays. -/
theorem creditField_ne_field :
    (creditField (.col "a" "cv")).eval [("a", [("cv", .text ",a")])] = .text ",,a," ∧
      String.ofList (Credits.field ",a".toList) = ",a," := by
  have hvalue : (Expr.col "a" "cv").eval [("a", [("cv", .text ",a")])] = .text ",a" := rfl
  refine ⟨?_, by decide⟩
  rw [eval_creditField hvalue]
  decide

end Predicate

/-! ## Keys in a normal form -/

namespace Credits

/-- Whether a key stands between commas of the normal form of a field, letters compared as patterns
compare them. -/
def HasKey (text key : List Char) : Prop :=
  foldText (separator :: key ++ [separator]) <:+: foldText (field text)

variable {text : List Char}

theorem hasKey_iff {k : List Char} (hne : k ≠ []) (hcomma : separator ∉ k) :
    HasKey text k ↔ ∃ name ∈ displayNames text, foldText (key name) = foldText k :=
  foldText_infix_between_iff (filter_splitOnP_intercalate_keys text) hne hcomma

/-- Ordinary names are found by their keys. -/
theorem same_key_of_isOrdinary {name actor : List Char} (hname : name ∈ displayNames text)
    (h : (∀ c ∈ text, IsOrdinary c) ∨ ∀ c ∈ actor, IsOrdinary c) :
    foldText (key name) = foldText (key actor) ↔ key name = key actor := by
  rcases h with htext | hactor
  · exact foldText_key_eq_iff (fun c hc =>
      isOrdinary_of_mem_fold htext c (mem_fold_of_mem_displayNames hname hc)) actor
  · rw [eq_comm, foldText_key_eq_iff (fun c hc =>
      isOrdinary_of_mem_fold hactor c (mem_fold_of_mem_key hc)), eq_comm]

end Credits

/-! ## The clause -/

section Clause

variable {s : Store} {scope : Scope} {album : Row} {field : String} {spec : FilterSpec}
  {shape : Shape} {key : String} {others : List String}

/-- There is one clause for voice actors at most, with the keys of the filter. -/
theorem FilterSpec.anyActor_mem_predicates_iff :
    .anyActor key others ∈ spec.predicates shape ↔ spec.actorKeys.toList = key :: others := by
  have hactors : .anyActor key others ∈ actorPredicates spec.actorKeys.toList ↔
      spec.actorKeys.toList = key :: others := by
    cases spec.actorKeys.toList with
    | nil => simp [actorPredicates]
    | cons k ks => simp [actorPredicates, eq_comm]
  have hempty : ∀ {α : Type} (predicate : List α → Predicate) (items : List α),
      (∀ items, .anyActor key others ≠ predicate items) →
        .anyActor key others ∉ unlessEmpty predicate items := by
    intro α predicate items hne hmem
    exact forall_unlessEmpty_iff.2 (fun _ => hne items) _ hmem rfl
  rw [predicates_eq]
  simp [hactors, hempty]

theorem FilterSpec.exists_actorKey_iff {P : List Char → Prop} :
    (∃ k ∈ spec.actorKeys, P k.toList) ↔
      ∃ actor ∈ spec.voiceActors, Credits.key actor.toList ≠ [] ∧ P (Credits.key actor.toList) := by
  constructor
  · rintro ⟨k, hk, hP⟩
    obtain ⟨actor, hactor, hne, rfl⟩ := (spec.mem_actorKeys_iff k).1 hk
    rw [String.toList_ofList] at hP
    exact ⟨actor, hactor, hne, hP⟩
  · rintro ⟨actor, hactor, hne, hP⟩
    refine ⟨_, (spec.mem_actorKeys_iff _).2 ⟨actor, hactor, hne, rfl⟩, ?_⟩
    rwa [String.toList_ofList]

/-- The clause comes to a pattern that is too long if no key before that is found. -/
theorem Predicate.meetsLongPattern_anyActor_iff :
    (anyActor key others).condition.meetsLongPattern (Subselect.values s.tables) scope = true ↔
      ∃ before k after, key :: others = before ++ k :: after ∧
        isLongPattern (listing k).toValue = true ∧
        ∀ j ∈ before, (Condition.likeTruth ((creditField (.col "a" "cv")).eval scope)
          (listing j).toValue).holds = false := by
  rw [condition_anyActor, Condition.meetsLongPattern_anyOf_iff, ← List.map_cons]
  constructor
  · rintro ⟨before, d, after, heq, hlong, hbefore⟩
    obtain ⟨start, rest, hkeys, rfl, hrest⟩ := List.map_eq_append_iff.1 heq
    obtain ⟨k, ks, rfl, rfl, -⟩ := List.map_eq_cons_iff.1 hrest
    exact ⟨start, k, ks, hkeys, hlong, List.forall_mem_map.1 hbefore⟩
  · rintro ⟨before, k, after, heq, hlong, hbefore⟩
    refine ⟨before.map creditsLike, creditsLike k, after.map creditsLike, ?_, hlong,
      List.forall_mem_map.2 hbefore⟩
    rw [heq, List.map_append, List.map_cons]

theorem FilterSpec.forall_anyActor_not_mem_iff :
    (∀ key others, .anyActor key others ∉ spec.predicates shape) ↔
      ∀ actor ∈ spec.voiceActors, Credits.key actor.toList = [] := by
  rw [← spec.actorKeys_eq_empty_iff, ← SortedSet.toList_eq_nil_iff]
  simp only [anyActor_mem_predicates_iff]
  cases spec.actorKeys.toList with
  | nil => simp
  | cons k ks => simp

/-- A normal form with the key of a name of the filter is one of a field with such a name. -/
theorem FilterSpec.exists_hasKey_iff (text : List Char) :
    (∃ actor ∈ spec.voiceActors, Credits.key actor.toList ≠ [] ∧
        Credits.HasKey text (Credits.key actor.toList)) ↔
      ∃ actor ∈ spec.voiceActors, Credits.key actor.toList ≠ [] ∧
        ∃ name ∈ Credits.displayNames text,
          foldText (Credits.key name) = foldText (Credits.key actor.toList) :=
  exists_congr fun actor => and_congr_right fun _ => and_congr_right fun hne =>
    Credits.hasKey_iff hne (Credits.separator_not_mem_key actor.toList)

theorem FilterSpec.exists_hasKey_iff_of_isOrdinary {text : List Char}
    (h : (∀ c ∈ text, IsOrdinary c) ∨
      ∀ actor ∈ spec.voiceActors, ∀ c ∈ actor.toList, IsOrdinary c) :
    (∃ actor ∈ spec.voiceActors, Credits.key actor.toList ≠ [] ∧
        Credits.HasKey text (Credits.key actor.toList)) ↔
      ∃ actor ∈ spec.voiceActors, Credits.key actor.toList ≠ [] ∧
        ∃ name ∈ Credits.displayNames text, Credits.key name = Credits.key actor.toList := by
  rw [exists_hasKey_iff]
  refine exists_congr fun actor => and_congr_right fun hactor => and_congr_right fun _ =>
    exists_congr fun name => and_congr_right fun hname => ?_
  exact Credits.same_key_of_isOrdinary hname (h.imp id fun h => h actor hactor)

section Field

variable (halbum : scope.lookup "a" = some album) (hfield : album.value "cv" = .text field)
  (hnul : '\x00' ∉ field.toList) (hactors : ∀ actor ∈ spec.voiceActors, '\x00' ∉ actor.toList)

include halbum hfield hnul hactors

/-- In a plain field a key of the filter is found where the normal form has it. -/
theorem FilterSpec.holds_like_actorKey_iff {k : String} (hk : k ∈ spec.actorKeys) :
    (Condition.likeTruth ((creditField (.col "a" "cv")).eval scope)
        (Predicate.listing k).toValue).holds = true ↔ Credits.HasKey field.toList k.toList := by
  obtain ⟨actor, hactor, hne, rfl⟩ := (spec.mem_actorKeys_iff k).1 hk
  have hcomma := Credits.separator_not_mem_key actor.toList
  have hkeynul : '\x00' ∉ Credits.key actor.toList :=
    mt Credits.nul_mem_key_iff.1 (hactors actor hactor)
  have hvalue : (Expr.col "a" "cv").eval scope = .text field := by
    rw [eval_col, halbum]
    exact hfield
  rw [Predicate.eval_creditField hvalue, holds_like_creditText_iff hnul hne hcomma,
    Credits.credited_iff hkeynul, String.toList_ofList, Credits.hasKey_iff hne hcomma]

/-- The clause holds where the normal form has a key of the filter. -/
theorem FilterSpec.holds_anyActor_iff_hasKey (hclause : spec.actorKeys.toList = key :: others) :
    (Predicate.anyActor key others).Holds s scope ↔
      ∃ actor ∈ spec.voiceActors, Credits.key actor.toList ≠ [] ∧
        Credits.HasKey field.toList (Credits.key actor.toList) := by
  rw [Predicate.holds_anyActor_iff_like, ← exists_actorKey_iff, ← hclause]
  exact exists_congr fun k => and_congr_right fun hk =>
    holds_like_actorKey_iff halbum hfield hnul hactors hk

/-- The clause comes to a pattern that is too long if the normal form has no key before that. -/
theorem FilterSpec.meetsLongPattern_anyActor_iff_hasKey
    (hclause : spec.actorKeys.toList = key :: others) :
    (Predicate.anyActor key others).condition.meetsLongPattern
        (Subselect.values s.tables) scope = true ↔
      ∃ before k after, key :: others = before ++ k :: after ∧
        isLongPattern (Predicate.listing k).toValue = true ∧
        ∀ j ∈ before, ¬ Credits.HasKey field.toList j.toList := by
  rw [Predicate.meetsLongPattern_anyActor_iff]
  refine exists_congr fun before => exists_congr fun k => exists_congr fun after =>
    and_congr_right fun heq => and_congr_right fun _ => forall₂_congr fun j hj => ?_
  have hkey : j ∈ spec.actorKeys := by
    rw [SortedSet.mem_def, hclause, heq]
    exact List.mem_append_left _ hj
  rw [← holds_like_actorKey_iff halbum hfield hnul hactors hkey, Bool.not_eq_true]

end Field

/-- **What the clause for voice actors says.**  There is none exactly if no name of the filter has a
key.  If there is one, it holds of a row exactly if a name in the credits of its album and one of
the filter have the same key, and exactly if the normal form of the credits has the key of one of
the filter; keys are compared as patterns compare them, which is plainly if the credits or the names
of the filter are ordinary.  It cannot be evaluated exactly if a key whose pattern is too long
stands before all keys that are found. -/
theorem anyActor_iff (shape : Shape) (halbum : scope.lookup "a" = some album)
    (hfield : album.value "cv" = .text field) (hnul : '\x00' ∉ field.toList)
    (hactors : ∀ actor ∈ spec.voiceActors, '\x00' ∉ actor.toList) :
    ((∀ key others, .anyActor key others ∉ spec.predicates shape) ↔
      ∀ actor ∈ spec.voiceActors, Credits.key actor.toList = []) ∧
    ∀ key others, .anyActor key others ∈ spec.predicates shape →
      let clause := Predicate.anyActor key others
      (clause.Holds s scope ↔ ∃ actor ∈ spec.voiceActors, Credits.key actor.toList ≠ [] ∧
        ∃ name ∈ Credits.displayNames field.toList,
          foldText (Credits.key name) = foldText (Credits.key actor.toList)) ∧
      (clause.Holds s scope ↔ ∃ actor ∈ spec.voiceActors, Credits.key actor.toList ≠ [] ∧
        Credits.HasKey field.toList (Credits.key actor.toList)) ∧
      ((∀ c ∈ field.toList, IsOrdinary c) ∨
          (∀ actor ∈ spec.voiceActors, ∀ c ∈ actor.toList, IsOrdinary c) →
        (clause.Holds s scope ↔ ∃ actor ∈ spec.voiceActors, Credits.key actor.toList ≠ [] ∧
          ∃ name ∈ Credits.displayNames field.toList,
            Credits.key name = Credits.key actor.toList) ∧
        (clause.Holds s scope ↔ ∃ actor ∈ spec.voiceActors, Credits.key actor.toList ≠ [] ∧
          Credits.separator :: Credits.key actor.toList ++ [Credits.separator] <:+:
            Credits.field field.toList)) ∧
      (clause.condition.meetsLongPattern (Subselect.values s.tables) scope = true ↔
        ∃ before k after, key :: others = before ++ k :: after ∧
          isLongPattern (Predicate.listing k).toValue = true ∧
          ∀ j ∈ before, ¬ Credits.HasKey field.toList j.toList) := by
  refine ⟨FilterSpec.forall_anyActor_not_mem_iff, fun key others hclause => ?_⟩
  rw [FilterSpec.anyActor_mem_predicates_iff] at hclause
  have hholds : (Predicate.anyActor key others).Holds s scope ↔ _ :=
    FilterSpec.holds_anyActor_iff_hasKey halbum hfield hnul hactors hclause
  refine ⟨hholds.trans (FilterSpec.exists_hasKey_iff _), hholds, fun hordinary => ?_,
    FilterSpec.meetsLongPattern_anyActor_iff_hasKey halbum hfield hnul hactors hclause⟩
  have hnames := hholds.trans (FilterSpec.exists_hasKey_iff_of_isOrdinary hordinary)
  refine ⟨hnames, hnames.trans (exists_congr fun actor => and_congr_right fun _ =>
    and_congr_right fun hne => ?_)⟩
  exact (Credits.infix_field_iff_exists hne (Credits.separator_not_mem_key actor.toList)).symm

/-- A name with a blank in it and letters of another case. -/
theorem anyActor_iff_spaced :
    let field := "Aoi Yuki\uff0c SATO Hana"
    let album : Row := [("cv", .text field)]
    let scope : Scope := [("a", album)]
    let spec : FilterSpec := { voiceActors := (∅ : SortedSet String).insert "sato\thana" }
    scope.lookup "a" = some album ∧ album.value "cv" = .text field ∧ '\x00' ∉ field.toList ∧
      (∀ actor ∈ spec.voiceActors, '\x00' ∉ actor.toList) ∧
      .anyActor "satohana" [] ∈ spec.predicates .albums ∧
      (Predicate.anyActor "satohana" []).Holds {} scope := by
  intro field album scope spec
  have halbum : scope.lookup "a" = some album := rfl
  have hfield : album.value "cv" = .text field := rfl
  have hnul : '\x00' ∉ field.toList := by decide
  have hactors : ∀ actor ∈ spec.voiceActors, '\x00' ∉ actor.toList := by
    intro actor hactor
    obtain rfl : actor = "sato\thana" := by simpa [spec] using hactor
    decide
  have hclause : .anyActor "satohana" [] ∈ spec.predicates .albums := by
    rw [FilterSpec.anyActor_mem_predicates_iff, FilterSpec.actorKeys_insert (by decide)]
    decide
  obtain ⟨-, hall⟩ := anyActor_iff (s := {}) .albums halbum hfield hnul hactors
  obtain ⟨hholds, -, -, -⟩ := hall _ _ hclause
  refine ⟨halbum, hfield, hnul, hactors, hclause, hholds.2 ?_⟩
  exact ⟨"sato\thana", SortedSet.mem_insert.2 (Or.inl rfl), by decide, " SATO Hana".toList.tail,
    by decide, by decide⟩

end Clause

/-- The clause may hold of credits without an equal key, and one with an equal key may be refused
for its pattern. -/
theorem anyActor_unlike_keys :
    (let field := "\uffff"
      let spec : FilterSpec := { voiceActors := (∅ : SortedSet String).insert "\ufffd" }
      .anyActor "\ufffd" [] ∈ spec.predicates .albums ∧
        (Predicate.anyActor "\ufffd" []).Holds {} [("a", [("cv", .text field)])] ∧
        ∀ actor ∈ spec.voiceActors, ∀ name ∈ Credits.displayNames field.toList,
          Credits.key name ≠ Credits.key actor.toList) ∧
    let actor := String.ofList (List.replicate 50000 'a')
    let spec : FilterSpec := { voiceActors := (∅ : SortedSet String).insert actor }
    .anyActor actor [] ∈ spec.predicates .albums ∧
      (Predicate.anyActor actor []).condition.meetsLongPattern
        (Subselect.values ({} : Store).tables) [("a", [("cv", .text actor)])] = true ∧
      ∃ name ∈ Credits.displayNames actor.toList, Credits.key name = Credits.key actor.toList := by
  refine ⟨?_, ?_⟩
  · intro field spec
    refine ⟨?_, ?_, ?_⟩
    · rw [FilterSpec.anyActor_mem_predicates_iff, FilterSpec.actorKeys_insert (by decide)]
      decide
    · have hvalue : (Expr.col "a" "cv").eval [("a", [("cv", .text field)])] = .text field := rfl
      rw [Predicate.holds_anyActor_iff_like]
      refine ⟨"\ufffd", List.mem_cons_self, ?_⟩
      rw [Predicate.eval_creditField hvalue]
      decide
    · intro actor hactor
      obtain rfl : actor = "\ufffd" := by simpa [spec] using hactor
      decide
  · obtain ⟨name, hname, hkey⟩ := Credits.exists_mem_displayNames_replicate (n := 50000) (by omega)
    have hkeys := Credits.key_replicate 50000
    have hlength : maxPatternSize ≤ (List.replicate 50000 'a').length :=
      Nat.le_of_eq List.length_replicate.symm
    -- what is left holds of any name, and so the long one need not be computed
    generalize List.replicate 50000 'a' = letters at hname hkey hkeys hlength ⊢
    intro actor spec
    have hactor : actor.toList = letters := String.toList_ofList
    rw [← hactor] at hname hkey hkeys hlength
    have hsame : String.ofList (Credits.key actor.toList) = actor := by
      rw [hkeys, String.ofList_toList]
    have hne : Credits.key actor.toList ≠ [] := by
      rw [hkeys]
      exact List.ne_nil_of_length_pos (Nat.lt_of_lt_of_le (by decide) hlength)
    have hlong : isLongPattern (Predicate.listing actor).toValue = true := by
      have hpattern : isLongPattern (actorPattern actor) = true :=
        isLongPattern_actorPattern (by rwa [hkeys])
      rwa [actorPattern, hsame] at hpattern
    refine ⟨?_, ?_, name, hname, hkey.trans hkeys.symm⟩
    · rw [FilterSpec.anyActor_mem_predicates_iff, FilterSpec.actorKeys_insert hne, hsame]
      rfl
    · rw [Predicate.meetsLongPattern_anyActor_iff]
      exact ⟨[], actor, [], rfl, hlong, List.forall_mem_nil _⟩

end AudioLibrary
