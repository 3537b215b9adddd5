import AudioLibrary.Proofs.Query.Calls
import AudioLibrary.Proofs.Query.Listings
import AudioLibrary.Proofs.Query.Position
import AudioLibrary.Proofs.Text.Casing

/-!
# Voice actors in rows of either order

The store sorts credit fields with letter case aside, and says nothing of the order of fields that
are tied.  Names are listed in the first spelling that is seen, and so the rows decide on more than
the fields do.  They decide on little: two lists of rows that have the same fields give the same
names, `perm_key_actorNames`; if both are sorted with ASCII letter case aside, the names are the
same up to ASCII letter case, `map_caseless_actorNames_eq`; and a name that is spelled in two ways
is so in two fields that are tied, `exists_tied_fields`.

What makes the second true is that splitting a field, the key of a name and its lower case form pay
no attention to the case of ASCII letters.  So the listed names in small letters are made from the
fields in small letters, `map_caseless_actorNames`, and of these no two are tied.
-/

namespace AudioLibrary

open AudioLibrary.Relational
open AudioLibrary.Text (foldCase)
open Std

/-! ## Sorted lists with the same members -/

namespace Relational

variable {α β : Type} {cmp : α → α → Ordering} [TransCmp cmp] {l l' : List α}

theorem nodup_eraseDups [BEq α] [LawfulBEq α] (l : List α) : l.eraseDups.Nodup := by
  have hnodup := nodup_map_eraseDupsBy (r := (· == ·)) (f := id) (l := l)
    fun a _ b _ => beq_iff_eq
  rwa [List.map_id] at hnodup

/-- Two sorted lists with the same members differ in repetitions alone, if there are no ties. -/
theorem eraseDups_eq_of_sorted [BEq α] [LawfulBEq α]
    (hl : l.Pairwise fun a b => (cmp a b).isLE = true)
    (hl' : l'.Pairwise fun a b => (cmp a b).isLE = true) (hmem : ∀ a, a ∈ l ↔ a ∈ l')
    (hties : ∀ a ∈ l, ∀ b ∈ l, cmp a b = .eq → a = b) : l.eraseDups = l'.eraseDups := by
  have hperm : l.eraseDups.Perm l'.eraseDups := by
    refine (List.perm_ext_iff_of_nodup (nodup_eraseDups l) (nodup_eraseDups l')).2 fun a => ?_
    rw [List.mem_eraseDups, List.mem_eraseDups, hmem]
  refine eq_of_perm_of_sorted (hl.sublist (eraseDupsBy_sublist _ l))
    (hl'.sublist (eraseDupsBy_sublist _ l')) hperm fun a ha b hb => ?_
  exact hties a (List.mem_eraseDups.1 ha) b (List.mem_eraseDups.1 hb)

/-- In a sorted list nothing is found before the member where it is found first. -/
theorem exists_first_of_findSome? (hl : l.Pairwise fun a b => (cmp a b).isLE = true)
    {find : α → Option β} {b : β} (h : l.findSome? find = some b) :
    ∃ a ∈ l, find a = some b ∧ ∀ c ∈ l, find c ≠ none → (cmp a c).isLE = true := by
  obtain ⟨before, a, after, rfl, hfind, hbefore⟩ := List.findSome?_eq_some_iff.1 h
  refine ⟨a, List.mem_append_right _ List.mem_cons_self, hfind, fun c hc hfound => ?_⟩
  rcases List.mem_append.1 hc with hc | hc
  · exact absurd (hbefore c hc) hfound
  · rcases List.mem_cons.1 hc with rfl | hc
    · have hself : cmp c c = .eq := ReflCmp.compare_self
      rw [hself]
      rfl
    · exact List.rel_of_pairwise_cons (List.pairwise_append.1 hl).2.1 hc

/-- What is found first in two sorted lists with the same members is found in members that are
tied. -/
theorem exists_tied_of_findSome? (hl : l.Pairwise fun a b => (cmp a b).isLE = true)
    (hl' : l'.Pairwise fun a b => (cmp a b).isLE = true) (hmem : ∀ a, a ∈ l ↔ a ∈ l')
    {find : α → Option β} {b b' : β} (h : l.findSome? find = some b)
    (h' : l'.findSome? find = some b') :
    ∃ a ∈ l, ∃ a' ∈ l, cmp a a' = .eq ∧ find a = some b ∧ find a' = some b' := by
  obtain ⟨a, ha, hfind, hfirst⟩ := exists_first_of_findSome? hl h
  obtain ⟨a', ha', hfind', hfirst'⟩ := exists_first_of_findSome? hl' h'
  have hfound : find a ≠ none := by
    rw [hfind]
    exact Option.some_ne_none b
  have hfound' : find a' ≠ none := by
    rw [hfind']
    exact Option.some_ne_none b'
  exact ⟨a, ha, a', (hmem a').2 ha',
    OrientedCmp.isLE_antisymm (hfirst a' ((hmem a').2 ha') hfound')
      (hfirst' a ((hmem a).1 ha) hfound), hfind, hfind'⟩

end Relational

namespace Listing

/-! ## The names in texts -/

/-- The names in texts; of those with one key the first. -/
def namesOf (texts : List (List Char)) : List (List Char) :=
  (texts.flatMap Credits.displayNames).eraseDupsBy fun a b => Credits.key a == Credits.key b

/-- No name is left out for want of a key. -/
theorem namesByKey_eq (fields : List String) :
    namesByKey fields = (fields.flatMap fun field =>
      Credits.displayNames field.toList).eraseDupsBy fun a b => Credits.key a == Credits.key b := by
  unfold namesByKey
  rw [List.filter_eq_self.2 fun name hname => ?_]
  obtain ⟨field, -, hname⟩ := List.mem_flatMap.1 hname
  exact decide_eq_true (Credits.key_ne_nil hname)

theorem namesByKey_eq_namesOf (fields : List String) :
    namesByKey fields = namesOf (fields.map String.toList) := by
  unfold namesOf
  rw [namesByKey_eq, List.flatMap_map]

theorem same_key_trans (a b c : List Char) (hab : (Credits.key a == Credits.key b) = true)
    (hbc : (Credits.key b == Credits.key c) = true) :
    (Credits.key a == Credits.key c) = true := by
  rw [beq_iff_eq] at hab hbc ⊢
  exact hab.trans hbc

theorem same_key_self (a : List Char) : (Credits.key a == Credits.key a) = true :=
  BEq.rfl

/-- Texts that are repeated give no more names. -/
theorem namesOf_eraseDups (texts : List (List Char)) : namesOf texts.eraseDups = namesOf texts :=
  (eraseDupsBy_flatMap_eraseDups same_key_trans same_key_self texts).symm

/-- The names in folded texts are the folded names. -/
theorem namesOf_foldCase (texts : List (List Char)) :
    namesOf (texts.map foldCase) = (namesOf texts).map foldCase := by
  unfold namesOf
  rw [List.flatMap_map]
  simp only [Credits.displayNames_foldCase]
  rw [← List.map_flatMap, eraseDupsBy_map]
  simp only [Credits.key_foldCase]

/-- The first name with a key in a field. -/
def firstNamed (key : List Char) (field : String) : Option (List Char) :=
  (Credits.displayNames field.toList).find? fun name => key == Credits.key name

/-- A listed name is the first with its key. -/
theorem findSome?_firstNamed {fields : List String} {actor : String}
    (h : actor ∈ actorNames fields) :
    fields.findSome? (firstNamed (Credits.key actor.toList)) = some actor.toList := by
  rw [mem_actorNames_iff, namesByKey_eq] at h
  have hfirst := find?_of_mem_eraseDupsBy same_key_trans same_key_self h
  rwa [List.find?_flatMap] at hfirst

/-! ## Names letter case aside -/

/-- A text in small letters. -/
def caseless (text : String) : List Char := foldCase text.toList

/-- The listed names in small letters are the names in the fields in small letters, sorted. -/
theorem map_caseless_actorNames (fields : List String) :
    (actorNames fields).map caseless =
      ((namesOf (fields.map caseless)).mergeSort fun a b =>
        nameLE (String.ofList a) (String.ofList b)) := by
  have hle : ∀ a ∈ (namesByKey fields).map String.ofList,
      ∀ b ∈ (namesByKey fields).map String.ofList,
        nameLE a b = nameLE (String.ofList (caseless a)) (String.ofList (caseless b)) := by
    intro a _ b _
    unfold nameLE caseless
    rw [String.toList_ofList, String.toList_ofList, Text.lowercase_foldCase,
      Text.lowercase_foldCase]
  have hfields : fields.map caseless = (fields.map String.toList).map foldCase :=
    (List.map_map ..).symm
  have hnames : ((namesByKey fields).map String.ofList).map caseless =
      namesOf (fields.map caseless) := by
    rw [hfields, namesOf_foldCase, ← namesByKey_eq_namesOf, List.map_map]
    refine List.map_congr_left fun name _ => ?_
    show foldCase (String.ofList name).toList = _
    rw [String.toList_ofList]
  unfold actorNames
  rw [List.map_mergeSort (s := fun a b => nameLE (String.ofList a) (String.ofList b)) hle, hnames]

/-! ## Two lists of the same fields -/

section Fields

variable {fields fields' : List String} (hmem : ∀ field, field ∈ fields ↔ field ∈ fields')

/-- The names in fields have the keys of the names in the fields. -/
theorem key_mem_iff {key : List Char} :
    key ∈ (actorNames fields).map (fun actor => Credits.key actor.toList) ↔
      ∃ field ∈ fields, ∃ name ∈ Credits.displayNames field.toList, Credits.key name = key := by
  rw [List.mem_map]
  constructor
  · rintro ⟨actor, hactor, rfl⟩
    obtain ⟨⟨field, hfield, hname⟩, -⟩ := mem_namesByKey (mem_actorNames_iff.1 hactor)
    exact ⟨field, hfield, actor.toList, hname, rfl⟩
  · rintro ⟨field, hfield, name, hname, rfl⟩
    exact exists_actor_of_field hfield hname

include hmem

/-- The same fields give names with the same keys, in whatever order they come. -/
theorem perm_key_actorNames :
    ((actorNames fields).map fun actor => Credits.key actor.toList).Perm
      ((actorNames fields').map fun actor => Credits.key actor.toList) := by
  refine (List.perm_ext_iff_of_nodup (nodup_key_actorNames fields)
    (nodup_key_actorNames fields')).2 fun key => ?_
  rw [key_mem_iff, key_mem_iff]
  simp only [hmem]

/-- The same fields, sorted with letter case aside, give the same names up to letter case. -/
theorem map_caseless_actorNames_eq
    (hsorted : fields.Pairwise fun a b => (compareOn caseless a b).isLE = true)
    (hsorted' : fields'.Pairwise fun a b => (compareOn caseless a b).isLE = true) :
    (actorNames fields).map caseless = (actorNames fields').map caseless := by
  have hsame : ∀ text, text ∈ fields.map caseless ↔ text ∈ fields'.map caseless := by
    intro text
    simp only [List.mem_map, hmem]
  have hfields : (fields.map caseless).eraseDups = (fields'.map caseless).eraseDups :=
    eraseDups_eq_of_sorted (List.pairwise_map.2 hsorted) (List.pairwise_map.2 hsorted') hsame
      fun _ _ _ _ => LawfulEqOrd.eq_of_compare
  rw [map_caseless_actorNames, map_caseless_actorNames, ← namesOf_eraseDups, hfields,
    namesOf_eraseDups]

variable {cmp : String → String → Ordering} [TransCmp cmp]
  (hsorted : fields.Pairwise fun a b => (cmp a b).isLE = true)
  (hsorted' : fields'.Pairwise fun a b => (cmp a b).isLE = true)

include hsorted hsorted'

/-- Names with one key stand in fields that are tied, and are one name if these are one field. -/
theorem exists_tied_fields {actor actor' : String} (hactor : actor ∈ actorNames fields)
    (hactor' : actor' ∈ actorNames fields')
    (hkey : Credits.key actor.toList = Credits.key actor'.toList) :
    ∃ field ∈ fields, ∃ field' ∈ fields, cmp field field' = .eq ∧
      actor.toList ∈ Credits.displayNames field.toList ∧
      actor'.toList ∈ Credits.displayNames field'.toList ∧ (field = field' → actor = actor') := by
  have hfirst := findSome?_firstNamed hactor
  have hfirst' := findSome?_firstNamed hactor'
  rw [hkey] at hfirst
  obtain ⟨field, hfield, field', hfield', htied, hnamed, hnamed'⟩ :=
    exists_tied_of_findSome? hsorted hsorted' hmem hfirst hfirst'
  refine ⟨field, hfield, field', hfield', htied, List.mem_of_find?_eq_some hnamed,
    List.mem_of_find?_eq_some hnamed', ?_⟩
  rintro rfl
  exact String.toList_inj.1 (Option.some.inj (hnamed.symm.trans hnamed'))

/-- The same fields, sorted and none tied, give the same names. -/
theorem actorNames_eq_of_sorted
    (hties : ∀ a ∈ fields, ∀ b ∈ fields, cmp a b = .eq → a = b) :
    actorNames fields = actorNames fields' := by
  have hnames : ∀ texts : List String, namesByKey texts.eraseDups = namesByKey texts := by
    intro texts
    rw [namesByKey_eq, namesByKey_eq]
    exact (eraseDupsBy_flatMap_eraseDups same_key_trans same_key_self texts).symm
  have hfields := eraseDups_eq_of_sorted hsorted hsorted' hmem hties
  unfold actorNames
  rw [← hnames fields, hfields, hnames]

end Fields

/-! ## Rows in order -/

/-- The credits that rows have. -/
def creditsOf (rows : List Row) : List Value := rows.map fun row => row.value "cv"

/-- Whether rows are sorted by their credits. -/
def SortedBy (cmp : String → String → Ordering) (rows : List Row) : Prop :=
  (creditsOf rows).Pairwise fun v w => (cmp v.textOr w.textOr).isLE = true

instance (cmp : String → String → Ordering) (rows : List Row) : Decidable (SortedBy cmp rows) := by
  unfold SortedBy
  infer_instance

section Texts

variable {rows : List Row} {fields : List String} (hfields : creditsOf rows = fields.map .text)

include hfields

theorem text_mem_creditsOf_iff {field : String} :
    .text field ∈ creditsOf rows ↔ field ∈ fields := by
  rw [hfields, List.mem_map_of_injective fun _ _ => Value.text.inj]

theorem exists_text_of_mem_creditsOf {v : Value} (hv : v ∈ creditsOf rows) :
    ∃ field, v = .text field := by
  rw [hfields] at hv
  obtain ⟨field, -, rfl⟩ := List.mem_map.1 hv
  exact ⟨field, rfl⟩

theorem SortedBy.pairwise {cmp : String → String → Ordering} (h : SortedBy cmp rows) :
    fields.Pairwise fun a b => (cmp a b).isLE = true := by
  unfold SortedBy at h
  rw [hfields] at h
  exact List.pairwise_map.1 h

end Texts

/-- Rows that the store has sorted are sorted with letter case aside, if there is no U+0000. -/
theorem sortedBy_caseless_of_noCase {rows : List Row}
    (h : SortedBy (Value.Collation.compare .noCase) rows)
    (hplain : ∀ v ∈ creditsOf rows, Store.IsPlainText v) :
    SortedBy (compareOn caseless) rows := by
  refine List.Pairwise.imp_of_mem ?_ h
  intro v w hv hw hle
  obtain ⟨text, rfl, hnul⟩ := hplain v hv
  obtain ⟨other, rfl, hother⟩ := hplain w hw
  show (compare (foldCase text.toList) (foldCase other.toList)).isLE = true
  rw [← Text.compareIgnoringCase_of_nul_not_mem hnul hother]
  exact hle

end Listing

open Listing

/-- **How far the order of rows decides on voice actors.**  Two calls that are given rows with the
same credits fail alike, where something is not a text, or, where all are texts, list names with the
same keys, which are those of the names in the fields.  If the rows of both are sorted with ASCII
letter case aside, the names are the same up to ASCII letter case.  By whatever the rows are sorted,
a name that the calls spell differently stands in two different fields that are tied; and if none
are, the names are the same. -/
theorem actors_listed_alike {σ : Type} (service : LibraryService σ) (session session' : Session σ)
    {rows rows' : List Row}
    (hrows : (service.adapter.query Listing.credits session.state).result = .ok rows)
    (hrows' : (service.adapter.query Listing.credits session'.state).result = .ok rows')
    (hsame : ∀ v, v ∈ creditsOf rows ↔ v ∈ creditsOf rows') :
    let listed := (service.voiceActors.run session).1
    let listed' := (service.voiceActors.run session').1
    let missing : LibraryError := .invalidInput "cv" "missing column in result set"
    (listed = .error missing ∧ listed' = .error missing ∧
      ∃ v ∈ creditsOf rows, ∀ text, v ≠ .text text) ∨
    ∃ actors actors', listed = .ok actors ∧ listed' = .ok actors' ∧
      (∀ v ∈ creditsOf rows, ∃ text, v = .text text) ∧
      (∀ key, key ∈ actors.map (fun actor => Credits.key actor.toList) ↔
        ∃ field, .text field ∈ creditsOf rows ∧
          ∃ name ∈ Credits.displayNames field.toList, Credits.key name = key) ∧
      (actors.map fun actor => Credits.key actor.toList).Perm
        (actors'.map fun actor => Credits.key actor.toList) ∧
      (SortedBy (compareOn caseless) rows → SortedBy (compareOn caseless) rows' →
        actors.map caseless = actors'.map caseless) ∧
      ∀ (cmp : String → String → Ordering) [TransCmp cmp], SortedBy cmp rows → SortedBy cmp rows' →
        (∀ actor ∈ actors, ∀ actor' ∈ actors',
          Credits.key actor.toList = Credits.key actor'.toList →
            ∃ field field', .text field ∈ creditsOf rows ∧ .text field' ∈ creditsOf rows ∧
              cmp field field' = .eq ∧ actor.toList ∈ Credits.displayNames field.toList ∧
              actor'.toList ∈ Credits.displayNames field'.toList ∧
              (field = field' → actor = actor')) ∧
        ((∀ field field', .text field ∈ creditsOf rows → .text field' ∈ creditsOf rows →
          cmp field field' = .eq → field = field') → actors = actors') := by
  intro listed listed' missing
  have hlisted : listed = _ := service.run_voiceActors_of_rows session hrows
  have hlisted' : listed' = _ := service.run_voiceActors_of_rows session' hrows'
  rcases Row.mapM_requireText rows "cv" with ⟨fields, hread, hfields⟩ | ⟨hread, row, hrow, hnot⟩
  · have hread' : ∃ fields', rows'.mapM (fun row => row.requireText "cv") = .ok fields' ∧
        creditsOf rows' = fields'.map .text := by
      refine (Row.mapM_requireText rows' "cv").resolve_right ?_
      rintro ⟨-, row, hrow, hnot⟩
      obtain ⟨field, htext⟩ :=
        exists_text_of_mem_creditsOf hfields ((hsame _).2 (List.mem_map_of_mem hrow))
      exact hnot field htext
    obtain ⟨fields', hread', hfields'⟩ := hread'
    have hmem : ∀ field, field ∈ fields ↔ field ∈ fields' := by
      intro field
      rw [← text_mem_creditsOf_iff hfields, hsame, text_mem_creditsOf_iff hfields']
    rw [hread] at hlisted
    rw [hread'] at hlisted'
    refine .inr ⟨actorNames fields, actorNames fields', hlisted, hlisted',
      fun _ hv => exists_text_of_mem_creditsOf hfields hv, fun key => ?_,
      perm_key_actorNames hmem, fun hsorted hsorted' => ?_, fun cmp _ hsorted hsorted' => ?_⟩
    · simp only [text_mem_creditsOf_iff hfields]
      exact key_mem_iff
    · exact map_caseless_actorNames_eq hmem (hsorted.pairwise hfields) (hsorted'.pairwise hfields')
    · have hsorted := hsorted.pairwise hfields
      have hsorted' := hsorted'.pairwise hfields'
      refine ⟨fun actor hactor actor' hactor' hkey => ?_, fun hties => ?_⟩
      · obtain ⟨field, hfield, field', hfield', hnamed⟩ :=
          exists_tied_fields hmem hsorted hsorted' hactor hactor' hkey
        exact ⟨field, field', (text_mem_creditsOf_iff hfields).2 hfield,
          (text_mem_creditsOf_iff hfields).2 hfield', hnamed⟩
      · refine actorNames_eq_of_sorted hmem hsorted hsorted' fun a ha b hb => ?_
        exact hties a b ((text_mem_creditsOf_iff hfields).2 ha)
          ((text_mem_creditsOf_iff hfields).2 hb)
  · have hread' : rows'.mapM (fun row => row.requireText "cv") =
        .error (Row.missingColumn "cv") := by
      refine ((Row.mapM_requireText rows' "cv").resolve_left ?_).1
      rintro ⟨fields', -, hfields'⟩
      obtain ⟨field, htext⟩ :=
        exists_text_of_mem_creditsOf hfields' ((hsame _).1 (List.mem_map_of_mem hrow))
      exact hnot field htext
    rw [hread] at hlisted
    rw [hread'] at hlisted'
    exact .inl ⟨hlisted, hlisted', _, List.mem_map_of_mem hrow, hnot⟩

/-- Two fields in three are tied, and each of two names stands in both of them. -/
theorem actors_listed_alike_tied :
    let rows : List Row :=
      [[("cv", .text "AOI, Hana")], [("cv", .text "Aoi, HANA")], [("cv", .text "Mio, aoi")]]
    let rows' : List Row :=
      [[("cv", .text "Aoi, HANA")], [("cv", .text "AOI, Hana")], [("cv", .text "Mio, aoi")]]
    let call := fun answer =>
      ((LibraryService.voiceActors ⟨Adapter.scripted, 10⟩).run { state := [.ok answer] }).1
    (∀ v, v ∈ creditsOf rows ↔ v ∈ creditsOf rows') ∧
      SortedBy (Value.Collation.compare .noCase) rows ∧
      SortedBy (Value.Collation.compare .noCase) rows' ∧
      ∃ actors actors', call rows = .ok actors ∧ call rows' = .ok actors' ∧
        actors.map caseless = actors'.map caseless := by
  intro rows rows' call
  have hsame : ∀ v, v ∈ creditsOf rows ↔ v ∈ creditsOf rows' := fun v => by
    simp only [creditsOf, rows, rows', List.map_cons, List.map_nil, Row.value_singleton,
      List.mem_cons, List.not_mem_nil]
    exact or_left_comm
  have hsorted : SortedBy (Value.Collation.compare .noCase) rows := by decide
  have hsorted' : SortedBy (Value.Collation.compare .noCase) rows' := by decide
  refine ⟨hsame, hsorted, hsorted', ?_⟩
  rcases actors_listed_alike ⟨Adapter.scripted, 10⟩ { state := [.ok rows] }
      { state := [.ok rows'] } rfl rfl hsame with
    ⟨-, -, v, hv, hnot⟩ | ⟨actors, actors', hlisted, hlisted', -, -, -, hcaseless, -⟩
  · have htexts : ∀ v ∈ creditsOf rows, Store.IsPlainText v := by decide
    obtain ⟨text, hvalue, -⟩ := htexts v hv
    exact absurd hvalue (hnot text)
  · exact ⟨actors, actors', hlisted, hlisted',
      hcaseless (sortedBy_caseless_of_noCase hsorted (by decide))
        (sortedBy_caseless_of_noCase hsorted' (by decide))⟩

/-- Which of two fields that are tied comes first decides how a name in both is spelled. -/
theorem listed_as_first_spelled :
    let rows : List Row := [[("cv", .text "AOI")], [("cv", .text "aoi")]]
    let call := fun answer =>
      ((LibraryService.voiceActors ⟨Adapter.scripted, 10⟩).run { state := [.ok answer] }).1
    (∀ v, v ∈ creditsOf rows ↔ v ∈ creditsOf rows.reverse) ∧
      SortedBy (compareOn caseless) rows ∧ SortedBy (compareOn caseless) rows.reverse ∧
      SortedBy (Value.Collation.compare .noCase) rows ∧
      SortedBy (Value.Collation.compare .noCase) rows.reverse ∧
      call rows = .ok ["AOI"] ∧ call rows.reverse = .ok ["aoi"] := by
  intro rows call
  have hlisted : ∀ {answer : List Row} {fields : List String} {name : String},
      (answer.mapM fun row => row.requireText "cv") = .ok fields →
        namesByKey fields = [name.toList] → call answer = .ok [name] := by
    intro answer fields name hread hnames
    refine (LibraryService.run_voiceActors_of_rows _ _ rfl).trans ?_
    rw [hread]
    show Except.ok (actorNames fields) = _
    rw [actorNames, hnames, List.map_singleton, List.mergeSort_singleton, String.ofList_toList]
  have hsame : ∀ v, v ∈ creditsOf rows ↔ v ∈ creditsOf rows.reverse := fun v => by
    rw [creditsOf, creditsOf, List.map_reverse, List.mem_reverse]
  exact ⟨hsame, by decide, by decide, by decide, by decide,
    hlisted rfl (by decide), hlisted rfl (by decide)⟩

end AudioLibrary
