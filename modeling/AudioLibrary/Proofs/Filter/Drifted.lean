import AudioLibrary.Filter.Stored
import AudioLibrary.Proofs.Json.Fields
import Mathlib.Data.List.Nodup

/-!
# Filters stored under another schema

A stored filter may come from a version of the program with fewer fields or more, and may have been
written by another hand.  `Drifted` says what such an object has in common with the filter: of each
field that it gives it says what the filter says, in sets in any order and any number of times; what
it does not give has its default.  Of members with other names nothing is asked.

Such an object is read as the filter, `ofJson?_of_drifted`, in whatever way it is spelled.
-/

namespace AudioLibrary.Json

/-! ## Members of an object -/

/-- Whether members give a field: what has its name says what is asked, and where nothing has, the
field has its default. -/
structure Give (members : List (String × Json)) (name : String) (wanted : Json → Prop)
    (standard : Prop) : Prop where
  said : ∀ j, (name, j) ∈ members → wanted j
  missing : name ∉ members.map Prod.fst → standard

/-- A field that is given once is said by its member. -/
theorem give_of_mem {members : List (String × Json)} {name : String} {wanted : Json → Prop}
    {standard : Prop} (hnodup : (members.map Prod.fst).Nodup) {j : Json}
    (hmem : (name, j) ∈ members) (hj : wanted j) : Give members name wanted standard where
  said := by
    intro other hother
    have heq := List.inj_on_of_nodup_map hnodup hother hmem rfl
    rw [(Prod.mk.inj heq).2]
    exact hj
  missing := fun hmissing => absurd (List.mem_map_of_mem hmem) hmissing

/-- Whether an array lists the members of a set, in any order and any number of times. -/
def ListsSet {α : Type} [Ord α] (encode : α → Json) (set : SortedSet α) (j : Json) : Prop :=
  ∃ as : List α, (∀ a, a ∈ as ↔ a ∈ set) ∧ j = .array (as.map encode)

theorem listsSet_toList {α : Type} [Ord α] (encode : α → Json) (set : SortedSet α) :
    ListsSet encode set (.array (set.toList.map encode)) :=
  ⟨set.toList, fun _ => Iff.rfl, rfl⟩

/-- A list of the members of a set is read as the set. -/
theorem ofList_of_listsSet {α : Type} [Ord α] [Std.LawfulEqOrd α] [Std.TransOrd α]
    {encode : α → Json} {read : Json → Option α} (hread : ∀ a, read (encode a) = some a)
    {set : SortedSet α} {j : Json} (h : ListsSet encode set j) :
    (j.list? read).map SortedSet.ofList = some set := by
  obtain ⟨as, hmem, rfl⟩ := h
  rw [list?_array_map fun a _ => hread a, Option.map_some]
  congr 1
  ext a
  rw [SortedSet.mem_ofList, hmem]

/-- A field that is given is read as it is said, and one that is not as its default. -/
theorem defaulted?_of_give {α : Type} {names : List String} {members : List (String × Json)}
    {name : String} {wanted : Json → Prop} {standard : Prop} {value a : α} {read : Json → Option α}
    (h : Give members name wanted standard) (hname : name ∈ names)
    (hread : ∀ j, wanted j → read j = some a) (hvalue : standard → value = a) :
    defaulted? (members.filter fun m => names.contains m.1) name value read = some a := by
  unfold defaulted?
  cases hlookup : (members.filter fun m => names.contains m.1).lookup name with
  | none =>
      have hmissing : name ∉ members.map Prod.fst := by
        intro hmem
        obtain ⟨m, hm, rfl⟩ := List.mem_map.1 hmem
        have hnone := List.lookup_eq_none_iff.1 hlookup m
          (List.mem_filter.2 ⟨hm, List.contains_iff_mem.2 hname⟩)
        simp at hnone
      exact congrArg some (hvalue (h.missing hmissing))
  | some j =>
      obtain ⟨before, after, heq, -⟩ := List.lookup_eq_some_iff.1 hlookup
      have hmem : (name, j) ∈ members.filter fun m => names.contains m.1 := by
        rw [heq]
        simp
      exact hread j (h.said j (List.mem_filter.1 hmem).1)

end AudioLibrary.Json

namespace AudioLibrary.FilterSpec

open Json

/-! ## Objects of another schema -/

/-- Whether the members of an object give a filter.  No field is given twice; members of other names
are not looked at. -/
structure Drifted (spec : FilterSpec) (members : List (String × Json)) : Prop where
  once : ∀ name ∈ memberNames, (members.map Prod.fst).count name ≤ 1
  textQuery : Give members "text_query" (· = .ofOption .ofString spec.textQuery)
    (spec.textQuery = none)
  includeTags : Give members "include_tag_ids"
    (ListsSet (fun tag : TagId => .ofInt64 tag.value) spec.includeTags) (spec.includeTags = ∅)
  excludeTags : Give members "exclude_tag_ids"
    (ListsSet (fun tag : TagId => .ofInt64 tag.value) spec.excludeTags) (spec.excludeTags = ∅)
  voiceActors : Give members "voice_actors" (ListsSet .ofString spec.voiceActors)
    (spec.voiceActors = ∅)
  circles : Give members "circles" (ListsSet .ofString spec.circles) (spec.circles = ∅)
  source : Give members "source" (· = .ofOption (fun f => .ofString f.name) spec.source)
    (spec.source = none)
  sort : Give members "sort" (· = .ofString spec.sort.name) (spec.sort = .addedDesc)

/-- **An object that gives a filter is read as the filter.** -/
theorem ofJson?_of_drifted {spec : FilterSpec} {members : List (String × Json)}
    (h : spec.Drifted members) : ofJson? (.record members) = some spec := by
  have hnodup : ((members.filter fun m => memberNames.contains m.1).map Prod.fst).Nodup := by
    rw [List.nodup_iff_count_le_one]
    intro name
    by_cases hname : name ∈ memberNames
    · exact ((List.filter_sublist.map Prod.fst).count_le name).trans (h.once name hname)
    · have hnone : name ∉ (members.filter fun m => memberNames.contains m.1).map Prod.fst := by
        intro hmem
        obtain ⟨m, hm, rfl⟩ := List.mem_map.1 hmem
        exact hname (List.contains_iff_mem.1 (List.mem_filter.1 hm).2)
      rw [List.count_eq_zero_of_not_mem hnone]
      exact Nat.zero_le 1
  have htext : ∀ j, j = ofOption ofString spec.textQuery →
      j.option? Json.string? = some spec.textQuery := by
    rintro j rfl
    exact option?_ofOption string?_ofString ofString_ne_null spec.textQuery
  have htags : ∀ (tags : SortedSet TagId) j,
      ListsSet (fun tag : TagId => .ofInt64 tag.value) tags j → readTags? j = some tags :=
    fun tags j => ofList_of_listsSet fun tag => by rw [int64?_ofInt64, Option.map_some]
  have hnames : ∀ (names : SortedSet String) j, ListsSet .ofString names j →
      readNames? j = some names :=
    fun names j => ofList_of_listsSet string?_ofString
  have hsource : ∀ j, j = ofOption (fun f => .ofString f.name) spec.source →
      j.option? (unit? SourceFilter.ofName?) = some spec.source := by
    rintro j rfl
    have hread : ∀ f : SourceFilter, unit? SourceFilter.ofName? (ofString f.name) = some f :=
      SourceFilter.ofName?_name
    exact option?_ofOption hread (fun f => ofString_ne_null f.name) spec.source
  have hsort : ∀ j, j = ofString spec.sort.name →
      unit? SortOrder.ofName? j = some spec.sort := by
    rintro j rfl
    exact SortOrder.ofName?_name spec.sort
  unfold ofJson?
  rw [fields?_record_filter hnodup]
  simp only [Option.bind_eq_bind, Option.bind_some]
  rw [defaulted?_of_give h.textQuery (by decide) htext Eq.symm,
    defaulted?_of_give h.includeTags (by decide) (htags _) Eq.symm,
    defaulted?_of_give h.excludeTags (by decide) (htags _) Eq.symm,
    defaulted?_of_give h.voiceActors (by decide) (hnames _) Eq.symm,
    defaulted?_of_give h.circles (by decide) (hnames _) Eq.symm,
    defaulted?_of_give h.source (by decide) hsource Eq.symm,
    defaulted?_of_give h.sort (by decide) hsort Eq.symm]
  rfl

/-- **A filter stored under another schema is read back.**  Fields may be left out where they have
their default, and stand in any order; sets may be listed in any order and with repetitions; members
of other names may stand anywhere, with any content however deep; and the text may spell all that in
any way. -/
theorem parse?_of_drifted {spec : FilterSpec} {members : List (String × Json)}
    (h : spec.Drifted members) {text : String}
    (htext : Spaced (Json.record members).Spells text.toList) : parse? text = some spec := by
  unfold parse?
  rw [parse?_of_spells htext]
  exact ofJson?_of_drifted h

/-- Tags and the sort are given, among members that mean nothing here. -/
theorem parse?_of_drifted_reordered :
    let spec : FilterSpec := { includeTags := .ofList [⟨3⟩, ⟨7⟩], sort := .titleAsc }
    let members : List (String × Json) :=
      [("layout", .array [.object [(some "sort", .array [.null, .text none])]]),
       ("sort", .ofString "TitleAsc"),
       ("include_tag_ids", .array [.ofInt64 7, .ofInt64 3, .ofInt64 7]),
       ("layout", .bool true)]
    let text := String.ofList (' ' :: (Json.record members).print ++ ['\n'])
    spec.Drifted members ∧ Spaced (Json.record members).Spells text.toList ∧
      parse? text = some spec := by
  intro spec members text
  have htags : ListsSet (fun tag : TagId => .ofInt64 tag.value) spec.includeTags
      (.array [.ofInt64 7, .ofInt64 3, .ofInt64 7]) := by
    refine ⟨[⟨7⟩, ⟨3⟩, ⟨7⟩], fun id => ?_, rfl⟩
    rw [SortedSet.mem_ofList]
    simp only [List.mem_cons, List.not_mem_nil, or_false]
    tauto
  have hdrifted : spec.Drifted members := {
    once := by decide
    textQuery := ⟨by simp [members], fun _ => rfl⟩
    includeTags := ⟨by simpa [members] using htags, by simp [members]⟩
    excludeTags := ⟨by simp [members], fun _ => rfl⟩
    voiceActors := ⟨by simp [members], fun _ => rfl⟩
    circles := ⟨by simp [members], fun _ => rfl⟩
    source := ⟨by simp [members], fun _ => rfl⟩
    sort := ⟨by simp [members]; rfl, by simp [members]⟩ }
  have hproper : (Json.record members).IsProper := by
    have htag := isProper_ofInt64
    exact ⟨⟨⟨⟨trivial, trivial, trivial⟩, trivial⟩, trivial⟩, trivial,
      ⟨htag 7, htag 3, htag 7, trivial⟩, trivial, trivial⟩
  have htext : Spaced (Json.record members).Spells text.toList := by
    have hblank : IsBlank [' '] ∧ IsBlank ['\n'] := by simp [IsBlank, Parser.isSpace]
    refine ⟨[' '], _, ['\n'], ?_, hblank.1, spells_print _ hproper, hblank.2⟩
    rw [String.toList_ofList]
    rfl
  exact ⟨hdrifted, htext, parse?_of_drifted hdrifted htext⟩

end AudioLibrary.FilterSpec
