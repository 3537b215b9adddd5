import AudioLibrary.Proofs.Query.Answers
import AudioLibrary.Proofs.Relational.Order
import AudioLibrary.Query.Listing

/-!
# Listings of texts

The different texts of a column of albums.  A listing shows what albums have, the empty text left
out, and leaves out nothing else: `mem_texts_iff`.

Voice actors are the names in the credit fields that are listed.  Of the names with one key one is
kept, `nodup_key_actorNames` and `exists_mem_namesByKey`, and those are sorted,
`pairwise_actorNames`.
-/

namespace AudioLibrary

open AudioLibrary.Relational

theorem Row.value_singleton (column : String) (v : Value) : Row.value [(column, v)] column = v := by
  unfold Row.value Row.get?
  rw [List.lookup_cons_self, Option.getD_some]

/-! ## The different texts of a column -/

namespace Listing

variable {s : Store} {column : String} {readBy : Option Expr}

/-- The select of a listing of texts. -/
def distinctSelect (column : String) (readBy : Option Expr) : Select :=
  { distinct := true
    items := [.one (.expr (.column none column)) none]
    source := .ofTable "albums"
    readBy
    conditions := [.differs (.column none column) (.literal "")]
    orderBy := [{ term := .expr (.column none column), collation := .noCase }] }

/-- The albums that a listing of texts looks at. -/
theorem mem_scopes_iff {scope : Scope} :
    scope ∈ (distinctSelect column readBy).scopes s.tables ↔
      ∃ album ∈ s.rows .albums, (album.value column ≠ .null ∧ album.value column ≠ .text "") ∧
        [("albums", album)] = scope := by
  have hsource : ∀ scope, scope ∈ (distinctSelect column readBy).sourceScopes s.tables ↔
      scope ∈ (s.rows .albums).map fun album => [("albums", album)] := by
    have halbums : (distinctSelect column readBy).source.scopes s.tables (Union.rows s.tables) [] =
        (s.rows .albums).map fun album => [("albums", album)] :=
      congrArg (List.map fun album => [("albums", album)]) (Store.tables_name s .albums)
    intro scope
    unfold Select.sourceScopes
    rw [halbums]
    cases readBy with
    | none => exact Iff.rfl
    | some e => exact List.mem_mergeSort
  have hcondition : ∀ album : Row,
      Condition.allHold (Subselect.values s.tables) [("albums", album)]
        (distinctSelect column readBy).conditions = true ↔
          album.value column ≠ .null ∧ album.value column ≠ .text "" := by
    intro album
    rw [Condition.allHold_iff, show (distinctSelect column readBy).conditions =
      [.differs (.column none column) (.literal "")] from rfl, List.forall_mem_singleton,
      Condition.eval, Expr.eval, Expr.eval, Scope.value_none,
      Predicate.holds_differs_text_iff]
  show scope ∈ List.filter _ ((distinctSelect column readBy).sourceScopes s.tables) ↔ _
  rw [List.mem_filter, hsource, List.mem_map]
  constructor
  · rintro ⟨⟨album, halbum, rfl⟩, hholds⟩
    exact ⟨album, halbum, (hcondition album).1 hholds, rfl⟩
  · rintro ⟨album, halbum, hvalue, rfl⟩
    exact ⟨⟨album, halbum, rfl⟩, (hcondition album).2 hvalue⟩

/-- A listing of texts has one row for each of those that are the same. -/
theorem mem_rows_iff {row : Row} :
    row ∈ (distinctTexts column readBy).rows s.tables ↔
      ∃ pair ∈ (((distinctSelect column readBy).scopes s.tables).map fun scope =>
          ((distinctSelect column readBy).keyValues s.tables scope
            ((distinctSelect column readBy).project s.tables scope),
          (distinctSelect column readBy).project s.tables scope)).eraseDupsBy
            (fun a b => Select.sameRow a.2 b.2), pair.2 = row := by
  show row ∈ List.map Prod.snd (List.mergeSort _ _) ↔ _
  simp only [List.mem_map, List.mem_mergeSort]
  exact Iff.rfl

theorem project_albums (readBy : Option Expr) (album : Row) :
    (distinctSelect column readBy).project s.tables [("albums", album)] =
      [(column, album.value column)] := by
  show [(column, Expr.eval [("albums", album)] (.column none column))] = _
  rw [Expr.eval, Scope.value_none]

/-- A listing of texts shows what albums have. -/
theorem exists_album_of_mem_rows {row : Row}
    (h : row ∈ (distinctTexts column readBy).rows s.tables) :
    ∃ album ∈ s.rows .albums, album.value column ≠ .null ∧ album.value column ≠ .text "" ∧
      row = [(column, album.value column)] := by
  obtain ⟨pair, hpair, rfl⟩ := mem_rows_iff.1 h
  obtain ⟨scope, hscope, rfl⟩ := List.mem_map.1 ((eraseDupsBy_sublist _ _).subset hpair)
  obtain ⟨album, halbum, ⟨hnull, hempty⟩, rfl⟩ := mem_scopes_iff.1 hscope
  exact ⟨album, halbum, hnull, hempty, project_albums readBy album⟩

/-- A listing of texts leaves out no text but the empty one. -/
theorem mem_rows_of_text {album : Row} (halbum : album ∈ s.rows .albums) {text : String}
    (hvalue : album.value column = .text text) (hne : text ≠ "") :
    [(column, .text text)] ∈ (distinctTexts column readBy).rows s.tables := by
  have hscope : [("albums", album)] ∈ (distinctSelect column readBy).scopes s.tables := by
    refine mem_scopes_iff.2 ⟨album, halbum, ?_, rfl⟩
    rw [hvalue]
    exact ⟨nofun, fun h => hne (Value.text.inj h)⟩
  obtain ⟨kept, hkept, hsame⟩ := exists_same_mem_eraseDupsBy
    (fun (a b : List Value × Row) => Select.sameRow a.2 b.2) _ _ (List.mem_map_of_mem hscope)
  refine mem_rows_iff.2 ⟨kept, hkept, ?_⟩
  obtain ⟨scope, hkeptScope, rfl⟩ := List.mem_map.1 ((eraseDupsBy_sublist _ _).subset hkept)
  obtain ⟨other, -, -, rfl⟩ := mem_scopes_iff.1 hkeptScope
  dsimp only at hsame ⊢
  have hother : other.value column = .text text := by
    rcases hsame with heq | hsame
    · have hrow := congrArg Prod.snd heq
      dsimp only at hrow
      rw [project_albums, project_albums, hvalue] at hrow
      simpa using hrow.symm
    · rw [project_albums, project_albums, hvalue] at hsame
      have hsame : (Value.text text).same (other.value column) = true := by
        simpa [Select.sameRow] using hsame
      rwa [Value.same_comm, Predicate.same_text_iff] at hsame
  rw [project_albums, hother]

/-- A listing of texts is never refused for a pattern. -/
theorem run_distinctTexts (s : Store) (hcheck : (distinctTexts column readBy).check = .ok ()) :
    (distinctTexts column readBy).run s.tables =
      .ok ((distinctTexts column readBy).rows s.tables) := by
  refine Statement.run_eq_ok hcheck ?_
  show (distinctSelect column readBy).meetsLongPattern s.tables = false
  refine Select.meetsLongPattern_eq_false fun c hc scope => ?_
  obtain rfl := List.mem_singleton.1 hc
  rfl

/-- The texts that are read from a listing are those that albums have, without the empty one. -/
theorem mem_texts_iff {texts : List String} {text : String}
    (hread : ((distinctTexts column readBy).rows s.tables).mapM
      (fun row => row.requireText column) = .ok texts) :
    text ∈ texts ↔ text ≠ "" ∧ ∃ album ∈ s.rows .albums, album.value column = .text text := by
  have hmem : text ∈ texts ↔
      ∃ row ∈ (distinctTexts column readBy).rows s.tables, row.value column = .text text := by
    have hmap := mapM_eq_ok_iff.1 hread
    rw [← List.mem_map_of_injective (f := (Except.ok : String → Except LibraryError String))
      (fun _ _ => Except.ok.inj), ← hmap, List.mem_map]
    simp only [Row.requireText_eq_ok_iff]
  rw [hmem]
  constructor
  · rintro ⟨row, hrow, htext⟩
    obtain ⟨album, halbum, -, hempty, rfl⟩ := exists_album_of_mem_rows hrow
    rw [Row.value_singleton] at htext
    exact ⟨fun h => hempty (h ▸ htext), album, halbum, htext⟩
  · rintro ⟨hne, album, halbum, htext⟩
    exact ⟨_, mem_rows_of_text halbum htext hne, Row.value_singleton _ _⟩

/-- Where all values of a column are texts, a listing of them can be read. -/
theorem exists_texts (htext : ∀ album ∈ s.rows .albums, ∃ text, album.value column = .text text) :
    ∃ texts, ((distinctTexts column readBy).rows s.tables).mapM
      (fun row => row.requireText column) = .ok texts := by
  refine exists_mapM_eq_ok fun row hrow => ?_
  obtain ⟨album, halbum, -, -, rfl⟩ := exists_album_of_mem_rows hrow
  obtain ⟨text, hvalue⟩ := htext album halbum
  exact ⟨text, Row.requireText_eq_ok ((Row.value_singleton _ _).trans hvalue)⟩

/-! ## The names in credit fields -/

section Names

variable {fields : List String} {name : List Char}

theorem mem_namesByKey (h : name ∈ namesByKey fields) :
    (∃ field ∈ fields, name ∈ Credits.displayNames field.toList) ∧ Credits.key name ≠ [] := by
  obtain ⟨hname, hkey⟩ := List.mem_filter.1 ((eraseDupsBy_sublist _ _).subset h)
  exact ⟨List.mem_flatMap.1 hname, of_decide_eq_true hkey⟩

theorem same_key_iff (a b : List Char) :
    (Credits.key a == Credits.key b) = true ↔ Credits.key a = Credits.key b :=
  beq_iff_eq

/-- No two names of the list have one key. -/
theorem nodup_key_namesByKey (fields : List String) :
    ((namesByKey fields).map Credits.key).Nodup :=
  nodup_map_eraseDupsBy fun a _ b _ => same_key_iff a b

/-- Every name in a field is in the list, or one with the same key. -/
theorem exists_mem_namesByKey {field : String} (hfield : field ∈ fields)
    (hname : name ∈ Credits.displayNames field.toList) (hkey : Credits.key name ≠ []) :
    ∃ other ∈ namesByKey fields, Credits.key other = Credits.key name :=
  exists_mem_eraseDupsBy (fun a _ b _ => same_key_iff a b) name
    (List.mem_filter.2 ⟨List.mem_flatMap.2 ⟨field, hfield, hname⟩, decide_eq_true hkey⟩)

theorem mem_actorNames_iff {actor : String} :
    actor ∈ actorNames fields ↔ actor.toList ∈ namesByKey fields := by
  unfold actorNames
  rw [List.mem_mergeSort, List.mem_map]
  constructor
  · rintro ⟨name, hname, rfl⟩
    rwa [String.toList_ofList]
  · intro h
    exact ⟨actor.toList, h, String.ofList_toList⟩

/-- Every name in a field is listed, or one with the same key. -/
theorem exists_actor_of_field {field : String} (hfield : field ∈ fields)
    (hname : name ∈ Credits.displayNames field.toList) :
    ∃ actor ∈ actorNames fields, Credits.key actor.toList = Credits.key name := by
  obtain ⟨other, hother, hkey⟩ := exists_mem_namesByKey hfield hname (Credits.key_ne_nil hname)
  refine ⟨String.ofList other, mem_actorNames_iff.2 ?_, ?_⟩
  · rwa [String.toList_ofList]
  · rwa [String.toList_ofList]

theorem key_ne_nil_of_mem_actorNames {actor : String} (h : actor ∈ actorNames fields) :
    Credits.key actor.toList ≠ [] :=
  (mem_namesByKey (mem_actorNames_iff.1 h)).2

theorem nodup_key_actorNames (fields : List String) :
    ((actorNames fields).map fun actor => Credits.key actor.toList).Nodup := by
  have hperm := (List.mergeSort_perm ((namesByKey fields).map String.ofList) nameLE).map
    fun actor => Credits.key actor.toList
  have hkeys : ((namesByKey fields).map String.ofList).map
      (fun actor => Credits.key actor.toList) = (namesByKey fields).map Credits.key := by
    rw [List.map_map]
    exact List.map_congr_left fun name _ => congrArg Credits.key String.toList_ofList
  unfold actorNames
  rw [hperm.nodup_iff, hkeys]
  exact nodup_key_namesByKey fields

/-- The text by which a name is listed. -/
def lowered (name : String) : String := String.ofList (Text.lowercase name.toList)

theorem nameLE_iff {a b : String} : nameLE a b = true ↔ lowered a ≤ lowered b := by
  unfold nameLE
  rw [bne_iff_ne]
  exact compare_le_iff_le

/-- The names are in alphabetical order, letter case aside. -/
theorem pairwise_actorNames (fields : List String) :
    (actorNames fields).Pairwise fun a b => lowered a ≤ lowered b := by
  have htrans : ∀ a b c, nameLE a b = true → nameLE b c = true → nameLE a c = true := by
    intro a b c hab hbc
    rw [nameLE_iff] at hab hbc ⊢
    exact hab.trans hbc
  have htotal : ∀ a b, (nameLE a b || nameLE b a) = true := by
    intro a b
    rw [Bool.or_eq_true, nameLE_iff, nameLE_iff]
    exact le_total _ _
  exact (List.pairwise_mergeSort htrans htotal _).imp nameLE_iff.1

end Names

end Listing

end AudioLibrary
