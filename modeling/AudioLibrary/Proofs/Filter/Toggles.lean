import AudioLibrary.Proofs.Filter.Spec
import AudioLibrary.Query.Compile
import Mathlib.Algebra.Ring.Parity

/-!
# Toggles

The sets of a filter are changed one member at a time: a toggle puts its member in, or takes it out
if it is there.  A name is trimmed before it is toggled, and a blank one is no member at all, so
that `member?` says which member a toggle is about, if it is about one.

One toggle turns round whether its member is there and nothing else, `has_apply_iff`.  So after any
number of them what counts is how often each member was toggled, odd or even, `has_toggled_iff`, and
their order is of no account.
-/

namespace AudioLibrary

/-! ## Members of a filter -/

/-- A member of one of the sets of a filter. -/
inductive FilterMember where
  | includedTag (id : TagId)
  | excludedTag (id : TagId)
  | voiceActor (name : String)
  | circle (name : String)
deriving DecidableEq, Repr

namespace FilterSpec

/-- Whether a set of the filter has a member. -/
def Has (spec : FilterSpec) : FilterMember → Prop
  | .includedTag id => id ∈ spec.includeTags
  | .excludedTag id => id ∈ spec.excludeTags
  | .voiceActor name => name ∈ spec.voiceActors
  | .circle name => name ∈ spec.circles

instance (spec : FilterSpec) (m : FilterMember) : Decidable (spec.Has m) :=
  match m with
  | .includedTag id => inferInstanceAs (Decidable (id ∈ spec.includeTags))
  | .excludedTag id => inferInstanceAs (Decidable (id ∈ spec.excludeTags))
  | .voiceActor name => inferInstanceAs (Decidable (name ∈ spec.voiceActors))
  | .circle name => inferInstanceAs (Decidable (name ∈ spec.circles))

/-- The filter with a member more, or without it if it was there. -/
def toggleMember (spec : FilterSpec) : FilterMember → FilterSpec
  | .includedTag id => { spec with includeTags := spec.includeTags.toggle id }
  | .excludedTag id => { spec with excludeTags := spec.excludeTags.toggle id }
  | .voiceActor name => { spec with voiceActors := spec.voiceActors.toggle name }
  | .circle name => { spec with circles := spec.circles.toggle name }

theorem has_toggleMember_iff (spec : FilterSpec) (about m : FilterMember) :
    (spec.toggleMember about).Has m ↔ Xor (spec.Has m) (about = m) := by
  -- of the four sets only that of the member is another one
  cases about <;> cases m <;>
    simp [toggleMember, Has, SortedSet.mem_toggle, Xor, eq_comm]

/-- Filters with the same members that agree in all else are the same. -/
theorem eq_of_has_iff {spec spec' : FilterSpec} (htext : spec.textQuery = spec'.textQuery)
    (hsource : spec.source = spec'.source) (hsort : spec.sort = spec'.sort)
    (hhas : ∀ m, spec.Has m ↔ spec'.Has m) : spec = spec' := by
  have hincluded : spec.includeTags = spec'.includeTags :=
    SortedSet.ext fun id => hhas (.includedTag id)
  have hexcluded : spec.excludeTags = spec'.excludeTags :=
    SortedSet.ext fun id => hhas (.excludedTag id)
  have hactors : spec.voiceActors = spec'.voiceActors :=
    SortedSet.ext fun name => hhas (.voiceActor name)
  have hcircles : spec.circles = spec'.circles := SortedSet.ext fun name => hhas (.circle name)
  cases spec
  cases spec'
  simp_all

/-- What counts of an actor is the name trimmed, if that leaves anything. -/
theorem actorName_eq_some_iff {actor word : String} :
    actorName actor = some word ↔
      word.toList = Text.trim Credits.isStripped actor.toList ∧ word.toList ≠ [] := by
  unfold actorName
  dsimp only
  split
  · next hempty =>
      have hnil := String.toList_inj.2 (String.isEmpty_iff.1 hempty)
      rw [String.toList_ofList] at hnil
      refine iff_of_false nofun ?_
      rintro ⟨hword, hne⟩
      exact hne (hword.trans hnil)
  · next hempty =>
      rw [String.isEmpty_iff, ← String.toList_inj, String.toList_ofList] at hempty
      rw [Option.some_inj, ← String.toList_inj, String.toList_ofList, eq_comm]
      exact ⟨fun h => ⟨h, h ▸ hempty⟩, And.left⟩

/-- What counts of what counts is all of it. -/
theorem actorName_of_actorName {actor word : String} (h : actorName actor = some word) :
    actorName word = some word := by
  obtain ⟨hword, hne⟩ := actorName_eq_some_iff.1 h
  refine actorName_eq_some_iff.2 ⟨?_, hne⟩
  rw [hword, (Text.isTrimmed_trim Credits.isStripped actor.toList).trim_eq]

end FilterSpec

/-! ## One toggle -/

/-- What a host asks to be toggled. -/
inductive FilterToggle where
  | includeTag (tag : TagId)
  | excludeTag (tag : TagId)
  | voiceActor (actor : String)
  | circle (name : String)

namespace FilterToggle

/-- The filter after a toggle. -/
def apply (toggle : FilterToggle) (spec : FilterSpec) : FilterSpec :=
  match toggle with
  | includeTag tag => spec.toggleIncludeTag tag
  | excludeTag tag => spec.toggleExcludeTag tag
  | voiceActor actor => spec.toggleVoiceActor actor
  | circle name => spec.toggleCircle name

/-- The member that a toggle is about: a tag, or what trimming leaves of a name. -/
def member? : FilterToggle → Option FilterMember
  | includeTag tag => some (.includedTag tag)
  | excludeTag tag => some (.excludedTag tag)
  | voiceActor actor => (FilterSpec.actorName actor).map .voiceActor
  | circle name => (FilterSpec.nonBlank name).map .circle

/-- All toggles do the same to the member that they are about. -/
theorem apply_eq (toggle : FilterToggle) (spec : FilterSpec) :
    toggle.apply spec =
      match toggle.member? with
      | none => spec
      | some m => spec.toggleMember m := by
  cases toggle with
  | includeTag | excludeTag => rfl
  | voiceActor actor =>
      dsimp only [apply, member?, FilterSpec.toggleVoiceActor]
      cases FilterSpec.actorName actor <;> rfl
  | circle name =>
      dsimp only [apply, member?, FilterSpec.toggleCircle]
      cases FilterSpec.nonBlank name <;> rfl

/-- A toggle turns round whether its member is there, and nothing else. -/
theorem has_apply_iff (toggle : FilterToggle) (spec : FilterSpec) (m : FilterMember) :
    (toggle.apply spec).Has m ↔ Xor (spec.Has m) (toggle.member? = some m) := by
  rw [apply_eq]
  cases toggle.member? with
  | none => simp [Xor]
  | some about =>
      rw [Option.some_inj]
      exact spec.has_toggleMember_iff about m

theorem apply_unchanged (toggle : FilterToggle) (spec : FilterSpec) :
    (toggle.apply spec).textQuery = spec.textQuery ∧ (toggle.apply spec).source = spec.source ∧
      (toggle.apply spec).sort = spec.sort := by
  rw [apply_eq]
  rcases toggle.member? with _ | m
  · exact ⟨rfl, rfl, rfl⟩
  · cases m <;> exact ⟨rfl, rfl, rfl⟩

/-- A toggle is about no name but a trimmed one. -/
theorem nonBlank_of_member? {toggle : FilterToggle} {name : String}
    (h : toggle.member? = some (.circle name)) : FilterSpec.nonBlank name = some name := by
  cases toggle with
  | circle circle =>
      obtain ⟨word, hword, heq⟩ := Option.map_eq_some_iff.1 h
      obtain rfl := FilterMember.circle.inj heq
      exact FilterSpec.nonBlank_of_nonBlank hword
  | includeTag | excludeTag => cases h
  | voiceActor actor =>
      obtain ⟨word, -, heq⟩ := Option.map_eq_some_iff.1 h
      cases heq

theorem actorName_of_member? {toggle : FilterToggle} {name : String}
    (h : toggle.member? = some (.voiceActor name)) : FilterSpec.actorName name = some name := by
  cases toggle with
  | voiceActor actor =>
      obtain ⟨word, hword, heq⟩ := Option.map_eq_some_iff.1 h
      obtain rfl := FilterMember.voiceActor.inj heq
      exact FilterSpec.actorName_of_actorName hword
  | includeTag | excludeTag => cases h
  | circle circle =>
      obtain ⟨word, -, heq⟩ := Option.map_eq_some_iff.1 h
      cases heq

end FilterToggle

/-! ## Many toggles -/

namespace FilterSpec

variable {spec : FilterSpec} {toggles toggles' : List FilterToggle}

/-- The filter after some toggles, the first one first. -/
def toggled (spec : FilterSpec) (toggles : List FilterToggle) : FilterSpec :=
  toggles.foldl (fun spec toggle => toggle.apply spec) spec

/-- How many toggles are about a member. -/
def timesToggled (toggles : List FilterToggle) (m : FilterMember) : Nat :=
  toggles.countP fun toggle => toggle.member? = some m

theorem toggled_cons (spec : FilterSpec) (toggle : FilterToggle) (toggles : List FilterToggle) :
    spec.toggled (toggle :: toggles) = (toggle.apply spec).toggled toggles := rfl

/-- **Toggling is parity.** -/
theorem has_toggled_iff (spec : FilterSpec) (toggles : List FilterToggle) (m : FilterMember) :
    (spec.toggled toggles).Has m ↔ Xor (spec.Has m) (Odd (timesToggled toggles m)) := by
  induction toggles generalizing spec with
  | nil => simp [toggled, timesToggled, Xor]
  | cons toggle toggles ih =>
      rw [toggled_cons, ih, toggle.has_apply_iff, timesToggled, timesToggled, List.countP_cons]
      by_cases h : toggle.member? = some m
      · simp only [h, decide_true, if_true, Nat.odd_add_one, Xor]
        tauto
      · simp only [h, decide_false, Bool.false_eq_true, if_false, Nat.add_zero, Xor]
        tauto

theorem toggled_unchanged (spec : FilterSpec) (toggles : List FilterToggle) :
    (spec.toggled toggles).textQuery = spec.textQuery ∧
      (spec.toggled toggles).source = spec.source ∧ (spec.toggled toggles).sort = spec.sort := by
  induction toggles generalizing spec with
  | nil => exact ⟨rfl, rfl, rfl⟩
  | cons toggle toggles ih =>
      obtain ⟨htext, hsource, hsort⟩ := toggle.apply_unchanged spec
      rw [toggled_cons, ← htext, ← hsource, ← hsort]
      exact ih _

/-- Toggles that are about each member as often, odd or even, do the same. -/
theorem toggled_eq (h : ∀ m, Odd (timesToggled toggles m) ↔ Odd (timesToggled toggles' m)) :
    spec.toggled toggles = spec.toggled toggles' := by
  obtain ⟨htext, hsource, hsort⟩ := spec.toggled_unchanged toggles
  obtain ⟨htext', hsource', hsort'⟩ := spec.toggled_unchanged toggles'
  refine eq_of_has_iff (htext.trans htext'.symm) (hsource.trans hsource'.symm)
    (hsort.trans hsort'.symm) fun m => ?_
  rw [has_toggled_iff, has_toggled_iff, h m]

/-- A member that no toggle is about is there exactly if it was there before. -/
theorem has_toggled_iff_of_forall {m : FilterMember}
    (h : ∀ toggle : FilterToggle, toggle.member? ≠ some m) :
    (spec.toggled toggles).Has m ↔ spec.Has m := by
  have hnever : timesToggled toggles m = 0 :=
    List.countP_eq_zero.2 fun toggle _ => by simpa using h toggle
  rw [has_toggled_iff, hnever]
  simp [Xor]

/-- **Toggles go by parity.**  After some toggles a member is there exactly if either it was there
before or it was toggled an odd number of times, and not both.  Names that are not trimmed stay as
they are, blank ones among them, toggles of blank names change nothing, and so do all toggles to the
search text, the source and the sort.  So toggles in another order give the same filter and the same
queries, and the same toggles again, in any order, give the filter back. -/
theorem toggled_by_parity (spec : FilterSpec) (toggles : List FilterToggle) :
    (∀ m, (spec.toggled toggles).Has m ↔
      Xor (spec.Has m) (Odd (timesToggled toggles m))) ∧
    (∀ name, nonBlank name ≠ some name →
      ((spec.toggled toggles).Has (.circle name) ↔ spec.Has (.circle name))) ∧
    (∀ name, actorName name ≠ some name →
      ((spec.toggled toggles).Has (.voiceActor name) ↔ spec.Has (.voiceActor name))) ∧
    spec.toggled (toggles.filter fun toggle => toggle.member?.isSome) = spec.toggled toggles ∧
    (spec.toggled toggles).textQuery = spec.textQuery ∧
    (spec.toggled toggles).source = spec.source ∧
    (spec.toggled toggles).sort = spec.sort ∧
    ∀ toggles', toggles.Perm toggles' →
      spec.toggled toggles' = spec.toggled toggles ∧
      (∀ shape, LibraryQuery.compile shape (spec.toggled toggles') =
        LibraryQuery.compile shape (spec.toggled toggles)) ∧
      spec.toggled (toggles ++ toggles') = spec := by
  obtain ⟨htext, hsource, hsort⟩ := spec.toggled_unchanged toggles
  refine ⟨spec.has_toggled_iff toggles, fun name hname => ?_, fun name hname => ?_, ?_, htext,
    hsource, hsort, fun toggles' hperm => ?_⟩
  · exact has_toggled_iff_of_forall fun toggle h => hname (toggle.nonBlank_of_member? h)
  · exact has_toggled_iff_of_forall fun toggle h => hname (toggle.actorName_of_member? h)
  · refine toggled_eq fun m => ?_
    have hcount : timesToggled (toggles.filter fun toggle => toggle.member?.isSome) m =
        timesToggled toggles m := by
      unfold timesToggled
      rw [List.countP_filter]
      refine List.countP_congr fun toggle _ => ?_
      simp only [Bool.and_eq_true, decide_eq_true_eq, and_iff_left_iff_imp]
      intro h
      rw [h, Option.isSome_some]
    rw [hcount]
  · have hcount : ∀ m, timesToggled toggles' m = timesToggled toggles m :=
      fun m => (hperm.countP_eq _).symm
    have hsame : spec.toggled toggles' = spec.toggled toggles := toggled_eq fun m => by
      rw [hcount m]
    refine ⟨hsame, fun shape => by rw [hsame], ?_⟩
    show spec.toggled (toggles ++ toggles') = spec.toggled []
    refine toggled_eq fun m => ?_
    have hdouble : timesToggled (toggles ++ toggles') m =
        timesToggled toggles m + timesToggled toggles m := by
      rw [← hcount m, timesToggled, List.countP_append, ← timesToggled, ← timesToggled, hcount m]
    rw [hdouble]
    exact iff_of_false (Nat.not_odd_iff_even.2 ⟨_, rfl⟩) Nat.not_odd_zero

/-- A filter that holds an untidy circle, and toggles of it, of a blank name and of an actor. -/
theorem toggled_by_parity_untidy :
    let spec : FilterSpec := { circles := (∅ : SortedSet String).insert " Foo " }
    let toggles : List FilterToggle := [.circle " Foo ", .voiceActor "\tHana", .circle "\t"]
    toggles.Perm toggles.reverse ∧
      (spec.toggled toggles).Has (.circle "Foo") ∧ (spec.toggled toggles).Has (.circle " Foo ") ∧
      (spec.toggled toggles).Has (.voiceActor "Hana") ∧
      spec.toggled toggles.reverse = spec.toggled toggles ∧
      spec.toggled (toggles ++ toggles.reverse) = spec := by
  intro spec toggles
  have hperm : toggles.Perm toggles.reverse := (List.reverse_perm toggles).symm
  obtain ⟨hparity, huntidy, -, -, -, -, -, hreordered⟩ := toggled_by_parity spec toggles
  obtain ⟨hsame, -, hback⟩ := hreordered toggles.reverse hperm
  refine ⟨hperm, (hparity _).2 ?_, (huntidy _ ?_).2 ?_, (hparity _).2 ?_, hsame, hback⟩
  · exact Or.inr (by decide)
  · decide
  · exact SortedSet.mem_insert.2 (Or.inl rfl)
  · exact Or.inr (by decide)

end FilterSpec

end AudioLibrary
