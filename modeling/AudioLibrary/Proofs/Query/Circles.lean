import AudioLibrary.Proofs.Filter.Spec
import AudioLibrary.Proofs.Query.Arrangement
import AudioLibrary.Proofs.Query.Listings

/-!
# Circles that are listed and picked

A host lists the circles that there are, and a user who picks one expects its albums.  The listing
shows circles as they are stored; picking one trims it, and a blank one changes nothing.  So a
circle that is trimmed gives its albums, and another one those of the circle that trimming leaves.
-/

namespace AudioLibrary

open AudioLibrary.Relational

/-- The albums that a user gets who picks a circle. -/
def Store.albumsOfCircle (s : Store) (circle : String) : List Row :=
  (LibraryQuery.compile .albums (({} : FilterSpec).toggleCircle circle)).statement.rows s.tables

section Circles

variable {s : Store} {circle : String}

/-- A circle gives the albums of what trimming leaves of it. -/
theorem Store.albumsOfCircle_perm (hs : s.Sound) (h : Text.trimBlanks circle ≠ "") :
    (s.albumsOfCircle circle).Perm ((s.rows .albums).filter fun album =>
      album.value "circle" = .text (Text.trimBlanks circle)) := by
  unfold albumsOfCircle
  rw [FilterSpec.toggleCircle_of_ne h]
  refine Shape.rows_albums_perm hs fun album _ => ?_
  rw [FilterSpec.selects_names_iff, or_iff_right (SortedSet.insert_ne_empty _ _)]
  simp [FilterSpec.actorKeys_of_none]

/-- A blank circle gives all albums. -/
theorem Store.albumsOfCircle_of_blank (hs : s.Sound) (h : Text.trimBlanks circle = "") :
    (s.albumsOfCircle circle).Perm (s.rows .albums) := by
  unfold albumsOfCircle
  rw [FilterSpec.toggleCircle_of_blank h]
  have hall : ∀ album ∈ s.rows .albums, ({} : FilterSpec).Selects s .albums album ↔ True :=
    fun album _ => iff_true_intro FilterSpec.selects_of_none
  have hperm := Shape.rows_albums_perm hs hall
  rwa [List.filter_eq_self.2 fun album _ => decide_eq_true trivial] at hperm

/-- Calls for the albums of a circle are never refused. -/
theorem Database.givesPages_circle {db : Database} (hopen : db.closed = false) (size : UInt32)
    (circle : String) :
    db.GivesPages (LibraryService.queryAlbums ⟨Database.adapter, size⟩
      (({} : FilterSpec).toggleCircle circle)) (db.store.albumsOfCircle circle) Album.ofRow := by
  unfold Store.albumsOfCircle
  by_cases h : Text.trimBlanks circle = ""
  · rw [FilterSpec.toggleCircle_of_blank h]
    exact Database.givesPages_albums_of_open hopen rfl (fun _ => rfl)
      (LibraryQuery.meetsLongPattern_eq_false fun p hp => absurd hp List.not_mem_nil)
  · rw [FilterSpec.toggleCircle_of_ne h]
    refine Database.givesPages_albums_of_open hopen rfl (fun _ => rfl)
      (LibraryQuery.meetsLongPattern_eq_false fun p hp scope => ?_)
    obtain rfl : p = .anyCircle [Text.trimBlanks circle] := List.mem_singleton.1 hp
    rfl

/-- On an open database circles are listed as they are stored. -/
theorem Database.run_circles {session : Session Database} (hopen : session.state.closed = false)
    (size : UInt32) :
    ((LibraryService.circles ⟨Database.adapter, size⟩).run session).1 =
      (Listing.circles.rows session.state.store.tables).mapM fun row => row.requireText "circle" :=
  congrArg Prod.fst (Database.outcome_fetchAll_of_open hopen
    (Listing.run_distinctTexts session.state.store rfl) fun row => row.requireText "circle")

end Circles

/-- **What a circle that is listed gives.**  Circles are listed as they are stored.  A call for the
albums of one is never refused and gives, each once, the albums of the circle that is left when
white space around it is cut off, page by page; so a circle without any gives its own albums and no
others.  A circle of white space alone gives all albums. -/
theorem circles_listed_and_picked {session : Session Database}
    (hopen : session.state.closed = false) (hs : session.state.store.Sound) (size : UInt32) :
    let service : LibraryService Database := ⟨Database.adapter, size⟩
    let store := session.state.store
    ((∀ album ∈ store.rows .albums, ∃ circle, album.value "circle" = .text circle) →
      ∃ circles, (service.circles.run session).1 = .ok circles) ∧
    ∀ circles, (service.circles.run session).1 = .ok circles →
      (∀ circle, circle ∈ circles ↔
        circle ≠ "" ∧ ∃ album ∈ store.rows .albums, album.value "circle" = .text circle) ∧
      ∀ circle ∈ circles,
        (Text.trimBlanks circle ≠ "" →
          (store.albumsOfCircle circle).Perm ((store.rows .albums).filter fun album =>
            album.value "circle" = .text (Text.trimBlanks circle))) ∧
        (Text.trimBlanks circle = "" →
          (store.albumsOfCircle circle).Perm (store.rows .albums)) ∧
        (Text.trimBlanks circle = circle → store.albumsOfCircle circle ≠ []) ∧
        session.state.GivesPages (service.queryAlbums (({} : FilterSpec).toggleCircle circle))
          (store.albumsOfCircle circle) Album.ofRow := by
  intro service store
  have hrun : (service.circles.run session).1 = _ := Database.run_circles hopen size
  rw [hrun]
  refine ⟨fun htext => Listing.exists_texts htext, fun circles hcircles => ?_⟩
  have hlisted : ∀ circle, circle ∈ circles ↔
      circle ≠ "" ∧ ∃ album ∈ store.rows .albums, album.value "circle" = .text circle :=
    fun _ => Listing.mem_texts_iff hcircles
  refine ⟨hlisted, fun circle hcircle => ⟨?_, ?_, ?_, ?_⟩⟩
  · intro hname
    exact Store.albumsOfCircle_perm hs hname
  · intro hblank
    exact Store.albumsOfCircle_of_blank hs hblank
  · intro hself
    obtain ⟨hne, album, halbum, hvalue⟩ := (hlisted circle).1 hcircle
    have hperm := Store.albumsOfCircle_perm hs (hself ▸ hne)
    rw [hself] at hperm
    exact List.ne_nil_of_mem
      (hperm.mem_iff.2 (List.mem_filter.2 ⟨halbum, decide_eq_true hvalue⟩))
  · exact Database.givesPages_circle hopen size circle

/-- A clean circle is listed and gives its album. -/
theorem circles_listed_and_picked_clean :
    let session : Session Database :=
      { state := { store := .ofAlbums [[("circle", .text "Foo")]] } }
    session.state.closed = false ∧ session.state.store.Sound ∧
      ∃ circles, ((LibraryService.circles ⟨Database.adapter, 10⟩).run session).1 = .ok circles ∧
        "Foo" ∈ circles ∧ Text.trimBlanks "Foo" = "Foo" ∧
        session.state.store.albumsOfCircle "Foo" ≠ [] := by
  intro session
  have hs : session.state.store.Sound := by decide
  have hself : Text.trimBlanks "Foo" = "Foo" := by decide
  have hopen : session.state.closed = false := rfl
  have hl : session.state.store.Legible := by decide
  obtain ⟨hreadable, hlisted⟩ := circles_listed_and_picked hopen hs 10
  obtain ⟨circles, hcircles⟩ := hreadable fun album halbum =>
    hl.textual.text .albums "circle" (by decide) halbum
  obtain ⟨hmem, hpicked⟩ := hlisted circles hcircles
  have hfoo : "Foo" ∈ circles := (hmem "Foo").2 (by decide)
  exact ⟨hopen, hs, circles, hcircles, hfoo, hself, (hpicked "Foo" hfoo).2.2.1 hself⟩

/-- Of two circles that are listed with white space the one gives nothing and the other all. -/
theorem not_picked_as_listed :
    let store := Store.ofAlbums [[("circle", .text " Foo ")], [("circle", .text "\u3000")]]
    store.Sound ∧
      (∃ circles, ((LibraryService.circles ⟨Database.adapter, 10⟩).run
        { state := { store } }).1 = .ok circles ∧ " Foo " ∈ circles ∧ "\u3000" ∈ circles) ∧
      store.albumsOfCircle " Foo " = [] ∧
      ∃ album ∈ store.albumsOfCircle "\u3000", album.value "circle" = .text " Foo " := by
  intro store
  have hs : store.Sound := by decide
  have hl : store.Legible := by decide
  have hfoo := Store.albumsOfCircle_perm hs (show Text.trimBlanks " Foo " ≠ "" by decide)
  have hblank : (store.albumsOfCircle "\u3000").Perm (store.rows .albums) :=
    Store.albumsOfCircle_of_blank hs (by decide)
  obtain ⟨circles, hcircles⟩ := Listing.exists_texts fun album halbum =>
    hl.textual.text .albums "circle" (by decide) halbum
  have hmem : ∀ circle, circle ∈ circles ↔
      circle ≠ "" ∧ ∃ album ∈ store.rows .albums, album.value "circle" = .text circle :=
    fun _ => Listing.mem_texts_iff hcircles
  refine ⟨hs, ⟨circles, (Database.run_circles rfl 10).trans hcircles, (hmem _).2 (by decide),
    (hmem _).2 (by decide)⟩, ?_, ?_⟩
  · rw [← List.perm_nil]
    exact hfoo.trans (.of_eq (by decide))
  · exact ⟨_, hblank.mem_iff.2 List.mem_cons_self, by decide⟩

end AudioLibrary
