import AudioLibrary.Proofs.Filter.Spec
import AudioLibrary.Proofs.Query.Arrangement
import AudioLibrary.Proofs.Query.Bindings
import AudioLibrary.Proofs.Query.Listings
import AudioLibrary.Proofs.Query.Matching

/-!
# Voice actors that are listed and picked

A host lists the voice actors that credit fields name, and a user who picks one expects the albums
that credit the name.  The listing splits fields into names and compares keys; picking a name looks
for its key in a text that the store makes of each field.  Both find the same names, but for
characters that patterns do not tell apart.

A name stands trimmed in the filter that picking it makes, and trimming leaves its key as it is; so
the query looks for this one key, `predicates_toggleVoiceActor`, and gives the albums that credit
the name, `albumsOfActor_perm`.  A name may be so long that its pattern is refused.
-/

namespace AudioLibrary

open AudioLibrary.Relational

/-! ## Who credits a name -/

/-- Whether the credits of all albums are texts without a U+0000. -/
def Store.HasPlainCredits (s : Store) : Prop :=
  ∀ album ∈ s.rows .albums, Store.IsPlainText (album.value "cv")

instance (s : Store) : Decidable s.HasPlainCredits := by
  unfold Store.HasPlainCredits
  infer_instance

/-- Whether an album credits a name: one of its names has the key, letters compared as patterns
compare them. -/
def Row.credits (album : Row) (actor : String) : Bool :=
  match album.value "cv" with
  | .text field => (Credits.displayNames field.toList).any fun name =>
      foldText (Credits.key name) = foldText (Credits.key actor.toList)
  | _ => false

theorem Row.credits_iff {album : Row} {actor : String} :
    album.credits actor = true ↔ ∃ field, album.value "cv" = .text field ∧
      ∃ name ∈ Credits.displayNames field.toList,
        foldText (Credits.key name) = foldText (Credits.key actor.toList) := by
  unfold credits
  cases album.value "cv" with
  | text field => simp
  | null | integer i | real x | blob b => simp

namespace Row

variable {album : Row} {actor : String}

theorem credits_iff_credited (h : '\x00' ∉ Credits.key actor.toList) :
    album.credits actor = true ↔ ∃ field, album.value "cv" = .text field ∧
      Credits.Credited (Credits.key actor.toList) field.toList := by
  rw [credits_iff]
  simp only [Credits.credited_iff h]

/-- An ordinary name is credited by the albums that have a name with its key. -/
theorem credits_iff_of_isOrdinary (h : '\x00' ∉ Credits.key actor.toList)
    (hactor : ∀ c ∈ actor.toList, IsOrdinary c) :
    album.credits actor = true ↔ ∃ field, album.value "cv" = .text field ∧
      ∃ name ∈ Credits.displayNames field.toList,
        Credits.key name = Credits.key actor.toList := by
  rw [credits_iff_credited h]
  simp only [Credits.credited_iff_of_isOrdinary (mt Credits.nul_mem_key_iff.2 h) hactor]

end Row

/-! ## Picking a name -/

/-- The albums that a user gets who picks a voice actor. -/
def Store.albumsOfActor (s : Store) (actor : String) : List Row :=
  (LibraryQuery.compile .albums (({} : FilterSpec).toggleVoiceActor actor)).statement.rows s.tables

section Picking

variable {s : Store} {actor : String} {album : Row}

namespace FilterSpec

/-- One name makes one key. -/
theorem actorKeys_insert (hkey : Credits.key actor.toList ≠ []) :
    ({ voiceActors := (∅ : SortedSet String).insert actor } : FilterSpec).actorKeys =
      (∅ : SortedSet String).insert (String.ofList (Credits.key actor.toList)) := by
  ext key
  rw [mem_actorKeys_iff]
  simp only [SortedSet.mem_insert, SortedSet.not_mem_empty, or_false, exists_eq_left]
  constructor
  · rintro ⟨-, rfl⟩
    rfl
  · rintro rfl
    exact ⟨hkey, rfl⟩

/-- The trimmed name has the key of the name. -/
theorem actorKeys_toggleVoiceActor (hkey : Credits.key actor.toList ≠ []) :
    (({} : FilterSpec).toggleVoiceActor actor).actorKeys =
      (∅ : SortedSet String).insert (String.ofList (Credits.key actor.toList)) := by
  rw [toggleVoiceActor_of_key hkey, actorKeys_insert]
  · rw [String.toList_ofList, Credits.key_trim]
  · rwa [String.toList_ofList, Credits.key_trim]

theorem predicates_toggleVoiceActor (hkey : Credits.key actor.toList ≠ []) :
    (({} : FilterSpec).toggleVoiceActor actor).predicates .albums =
      [.anyActor (String.ofList (Credits.key actor.toList)) []] := by
  have hkeys := actorKeys_toggleVoiceActor hkey
  rw [predicates_eq, hkeys, toggleVoiceActor_of_key hkey]
  rfl

end FilterSpec

/-- The pattern that finds the key of a name. -/
def actorPattern (actor : String) : Value :=
  (Predicate.listing (String.ofList (Credits.key actor.toList))).toValue

/-- The pattern for a name is longer than its key. -/
theorem isLongPattern_actorPattern
    (h : maxPatternSize ≤ (Credits.key actor.toList).length) :
    isLongPattern (actorPattern actor) = true := by
  have hescape := length_le_length_escape (Credits.key actor.toList)
  show isLongPattern (.text (String.ofList (['%', ','] ++
    escape (String.ofList (Credits.key actor.toList)).toList ++ [',', '%']))) = true
  rw [isLongPattern_text, decide_eq_true_eq, String.toList_ofList]
  refine Nat.lt_of_lt_of_le ?_ (length_le_utf8ByteSize_ofList _)
  simp only [List.length_append, List.length_cons, List.length_nil]
  omega

/-- The store finds a key in an album that credits the name. -/
theorem holds_actorPattern_iff {field : String} (hfield : album.value "cv" = .text field)
    (hnul : '\x00' ∉ field.toList) (hkey : Credits.key actor.toList ≠ [])
    (hkeynul : '\x00' ∉ Credits.key actor.toList) :
    (Condition.likeTruth (creditsValue album) (actorPattern actor)).holds = true ↔
      album.credits actor = true := by
  rw [actorPattern, holds_like_listing_iff hfield hnul hkey (Credits.separator_not_mem_key _),
    Row.credits_iff_credited hkeynul, hfield]
  simp

/-- A name gives the albums that credit it. -/
theorem Store.albumsOfActor_perm (hs : s.Sound)
    (hplain : s.HasPlainCredits) (hkey : Credits.key actor.toList ≠ [])
    (hkeynul : '\x00' ∉ Credits.key actor.toList) :
    (s.albumsOfActor actor).Perm ((s.rows .albums).filter (·.credits actor)) := by
  have hkeys := FilterSpec.actorKeys_toggleVoiceActor hkey
  have hselects : ∀ album ∈ s.rows .albums,
      (({} : FilterSpec).toggleVoiceActor actor).Selects s .albums album ↔
        album.credits actor = true := by
    intro album halbum
    obtain ⟨field, hfield, hnul⟩ := hplain album halbum
    have hsome : (∅ : SortedSet String).insert (String.ofList (Credits.key actor.toList)) ≠ ∅ :=
      SortedSet.insert_ne_empty _ _
    rw [FilterSpec.toggleVoiceActor_of_key hkey] at hkeys ⊢
    rw [FilterSpec.selects_names_iff, hkeys, or_iff_right hsome, and_iff_left (Or.inl rfl),
      ← holds_actorPattern_iff hfield hnul hkey hkeynul]
    simp [actorPattern]
  have hperm := Shape.rows_albums_perm hs hselects
  simp only [Bool.decide_eq_true] at hperm
  exact hperm

/-- A name is looked for with its pattern alone. -/
theorem parameters_toggleVoiceActor (hkey : Credits.key actor.toList ≠ []) :
    (LibraryQuery.compile .albums (({} : FilterSpec).toggleVoiceActor actor)).statement.parameters =
      [actorPattern actor] := by
  have hbinds := (Binds.compile (({} : FilterSpec).toggleVoiceActor actor) .albums).arguments
  rw [← flatMap_bindings, FilterSpec.predicates_toggleVoiceActor hkey] at hbinds
  unfold Statement.parameters Statement.arguments
  rw [hbinds]
  rfl

/-- A name is refused for its pattern as soon as there is an album. -/
theorem meetsLongPattern_toggleVoiceActor (hs : s.Sound) (hkey : Credits.key actor.toList ≠ []) :
    (LibraryQuery.compile .albums
      (({} : FilterSpec).toggleVoiceActor actor)).statement.meetsLongPattern s.tables =
        ((s.rows .albums).any fun _ => isLongPattern (actorPattern actor)) :=
  LibraryQuery.meetsLongPattern_of_single hs (FilterSpec.predicates_toggleVoiceActor hkey)

/-- The query that picking a name makes. -/
theorem compile_toggleVoiceActor (hkey : Credits.key actor.toList ≠ []) :
    LibraryQuery.compile .albums (({} : FilterSpec).toggleVoiceActor actor) =
      { shape := .albums
        statement := .select
          { items := Shape.albums.items
            source := Shape.albums.source .addedDesc
            conditions :=
              [(Predicate.anyActor (String.ofList (Credits.key actor.toList)) []).condition]
            groupBy := Shape.albums.groupBy
            orderBy := Shape.albums.order .addedDesc } } := by
  unfold LibraryQuery.compile
  rw [FilterSpec.predicates_toggleVoiceActor hkey, FilterSpec.toggleVoiceActor_of_key hkey]
  rfl

/-- Calls for the albums of a name are answered unless its pattern is too long. -/
theorem Database.givesPages_actor {db : Database} (hopen : db.closed = false)
    (hs : db.store.Sound) (size : UInt32) (hkey : Credits.key actor.toList ≠ [])
    (hshort : isLongPattern (actorPattern actor) = false) :
    db.GivesPages (LibraryService.queryAlbums ⟨Database.adapter, size⟩
      (({} : FilterSpec).toggleVoiceActor actor)) (db.store.albumsOfActor actor) Album.ofRow := by
  have hmeets := meetsLongPattern_toggleVoiceActor hs hkey
  have hcompile := compile_toggleVoiceActor hkey
  unfold Store.albumsOfActor
  refine Database.givesPages_albums_of_open hopen ?_ (fun request => ?_) ?_
  · rw [hcompile]
    rfl
  · rw [hcompile]
    rfl
  · rw [hmeets, hshort]
    simp

/-- A call for the albums of a name whose pattern is too long fails. -/
theorem Database.queryAlbums_actor_of_long {session : Session Database}
    (hopen : session.state.closed = false) (hs : session.state.store.Sound) (size : UInt32)
    (hkey : Credits.key actor.toList ≠ [])
    (hlong : isLongPattern (actorPattern actor) = true)
    (halbum : album ∈ session.state.store.rows .albums) {request : PageRequest}
    (hpage : request.pageSize ≠ 0) :
    (LibraryService.queryAlbums ⟨Database.adapter, size⟩ (({} : FilterSpec).toggleVoiceActor actor)
      request).outcome session = (.error Database.longPatternError, session.state) := by
  have hmeets := meetsLongPattern_toggleVoiceActor hs hkey
  rw [hlong] at hmeets
  have hparameters := parameters_toggleVoiceActor hkey
  refine Database.queryAlbums_of_longPattern hopen ?_ ?_ ?_ hpage
  · rw [compile_toggleVoiceActor hkey]
    rfl
  · rw [hparameters]
    exact List.any_eq_true.2 ⟨_, List.mem_singleton_self _, hlong⟩
  · rw [hmeets]
    exact List.any_eq_true.2 ⟨album, halbum, rfl⟩

end Picking

/-! ## What the list and the filter agree on -/

/-- The credit fields that are listed, as they are read. -/
def Store.creditFields (s : Store) : Except LibraryError (List String) :=
  (Listing.credits.rows s.tables).mapM fun row => row.requireText "cv"

/-- On an open database voice actors are the names in the fields that it lists. -/
theorem Database.run_voiceActors {session : Session Database}
    (hopen : session.state.closed = false) (size : UInt32) {fields : List String}
    (hfields : session.state.store.creditFields = .ok fields) :
    ((LibraryService.voiceActors ⟨Database.adapter, size⟩).run session).1 =
      .ok (Listing.actorNames fields) := by
  have hrows : Listing.credits.run session.state.store.tables =
      .ok (Listing.credits.rows session.state.store.tables) :=
    Listing.run_distinctTexts session.state.store rfl
  have hanswer : session.state.rows "Query" Listing.credits =
      .ok (Listing.credits.rows session.state.store.tables) := by
    rw [rows_of_open hopen, hrows]
    rfl
  refine (LibraryService.run_voiceActors_of_rows _ session hanswer).trans ?_
  exact congrArg (Except.map Listing.actorNames) hfields

section Listed

variable {s : Store} {fields : List String} {actor : String} {album : Row}

/-- The fields that the names are taken from can be read. -/
theorem Store.HasPlainCredits.exists_fields (hplain : s.HasPlainCredits) :
    ∃ fields, s.creditFields = .ok fields := by
  refine Listing.exists_texts fun album halbum => ?_
  obtain ⟨field, hvalue, -⟩ := hplain album halbum
  exact ⟨field, hvalue⟩

variable (hfields : s.creditFields = .ok fields)

include hfields

/-- A listed name stands in the field of some album. -/
theorem Listing.exists_album_of_mem_actorNames (h : actor ∈ actorNames fields) :
    ∃ album ∈ s.rows .albums, ∃ field, album.value "cv" = .text field ∧
      actor.toList ∈ Credits.displayNames field.toList := by
  obtain ⟨⟨field, hfield, hname⟩, -⟩ := mem_namesByKey (mem_actorNames_iff.1 h)
  obtain ⟨-, album, halbum, hvalue⟩ := (mem_texts_iff hfields).1 hfield
  exact ⟨album, halbum, field, hvalue, hname⟩

/-- Of each name in a field one with its key is listed. -/
theorem Listing.exists_mem_actorNames (halbum : album ∈ s.rows .albums) {field : String}
    (hvalue : album.value "cv" = .text field) {name : List Char}
    (hname : name ∈ Credits.displayNames field.toList) :
    ∃ actor ∈ actorNames fields, Credits.key actor.toList = Credits.key name := by
  have hempty : field ≠ "" := by
    rintro rfl
    exact List.not_mem_nil hname
  exact exists_actor_of_field ((mem_texts_iff hfields).2 ⟨hempty, album, halbum, hvalue⟩) hname

/-- There is no U+0000 in a listed name. -/
theorem Listing.nul_not_mem_key_of_mem_actorNames (hplain : s.HasPlainCredits)
    (h : actor ∈ actorNames fields) : '\x00' ∉ Credits.key actor.toList := by
  obtain ⟨album, halbum, field, hvalue, hname⟩ := exists_album_of_mem_actorNames hfields h
  obtain ⟨other, hother, hnul⟩ := hplain album halbum
  obtain rfl : other = field := Value.text.inj (hother.symm.trans hvalue)
  exact Credits.nul_not_mem_key hnul hname

/-- A listed name gives the albums that credit it. -/
theorem Store.albumsOfActor_perm_of_listed (hs : s.Sound) (hplain : s.HasPlainCredits)
    (h : actor ∈ Listing.actorNames fields) :
    (s.albumsOfActor actor).Perm ((s.rows .albums).filter (·.credits actor)) :=
  albumsOfActor_perm hs hplain (Listing.key_ne_nil_of_mem_actorNames h)
    (Listing.nul_not_mem_key_of_mem_actorNames hfields hplain h)

end Listed

/-- Of a name that is too long one with its key is listed, and picking that is refused. -/
theorem Database.exists_refused_actor {session : Session Database}
    (hopen : session.state.closed = false) (hs : session.state.store.Sound)
    (hplain : session.state.store.HasPlainCredits) (size : UInt32) {album : Row}
    (halbum : album ∈ session.state.store.rows .albums) {field : String}
    (hvalue : album.value "cv" = .text field) {name : List Char}
    (hname : name ∈ Credits.displayNames field.toList)
    (hlong : maxPatternSize ≤ (Credits.key name).length) :
    ∃ actors, ((LibraryService.voiceActors ⟨Database.adapter, size⟩).run session).1 = .ok actors ∧
      ∃ actor ∈ actors, ∀ request : PageRequest, request.pageSize ≠ 0 →
        (LibraryService.queryAlbums ⟨Database.adapter, size⟩
          (({} : FilterSpec).toggleVoiceActor actor) request).outcome session =
            (.error Database.longPatternError, session.state) := by
  obtain ⟨fields, hfields⟩ := hplain.exists_fields
  obtain ⟨actor, hactor, hkey⟩ := Listing.exists_mem_actorNames hfields halbum hvalue hname
  refine ⟨_, run_voiceActors hopen size hfields, actor, hactor, fun request hpage => ?_⟩
  exact queryAlbums_actor_of_long hopen hs size (Listing.key_ne_nil_of_mem_actorNames hactor)
    (isLongPattern_actorPattern (hkey ▸ hlong)) halbum hpage

/-- **What a voice actor who is listed gives.**  On an open database without a U+0000 in its credits
the names are listed in alphabetical order, no two of them with one key and none without.  A listed
name gives, each once, the albums that credit it, of which there are some; for an ordinary name
these are the albums with a name of its key.  Calls for them give their pages unless the pattern for
the name is too long.  Every album with a name is given for some listed name. -/
theorem actors_listed_and_picked {session : Session Database}
    (hopen : session.state.closed = false) (hs : session.state.store.Sound)
    (hplain : session.state.store.HasPlainCredits) (size : UInt32) :
    let service : LibraryService Database := ⟨Database.adapter, size⟩
    let store := session.state.store
    ∃ actors, (service.voiceActors.run session).1 = .ok actors ∧
      (actors.map fun actor => Credits.key actor.toList).Nodup ∧
      (∀ actor ∈ actors, Credits.key actor.toList ≠ []) ∧
      actors.Pairwise (fun a b => Listing.lowered a ≤ Listing.lowered b) ∧
      (∀ actor ∈ actors,
        store.albumsOfActor actor ≠ [] ∧
        (store.albumsOfActor actor).Perm ((store.rows .albums).filter (·.credits actor)) ∧
        ((∀ c ∈ actor.toList, IsOrdinary c) → ∀ album ∈ store.rows .albums,
          (album.credits actor = true ↔ ∃ field, album.value "cv" = .text field ∧
            ∃ name ∈ Credits.displayNames field.toList,
              Credits.key name = Credits.key actor.toList)) ∧
        let calls := service.queryAlbums (({} : FilterSpec).toggleVoiceActor actor)
        if isLongPattern (actorPattern actor) then
          ∀ request, request.pageSize ≠ 0 →
            (calls request).outcome session = (.error Database.longPatternError, session.state)
        else session.state.GivesPages calls (store.albumsOfActor actor) Album.ofRow) ∧
      ∀ album ∈ store.rows .albums, ∀ field, album.value "cv" = .text field →
        Credits.displayNames field.toList ≠ [] →
          ∃ actor ∈ actors, album ∈ store.albumsOfActor actor := by
  intro service store
  obtain ⟨fields, hfields⟩ := hplain.exists_fields
  have hkey : ∀ actor ∈ Listing.actorNames fields, Credits.key actor.toList ≠ [] :=
    fun _ hactor => Listing.key_ne_nil_of_mem_actorNames hactor
  have hperm : ∀ actor ∈ Listing.actorNames fields,
      (store.albumsOfActor actor).Perm ((store.rows .albums).filter (·.credits actor)) :=
    fun _ hactor => Store.albumsOfActor_perm_of_listed hfields hs hplain hactor
  have hgiven : ∀ actor ∈ Listing.actorNames fields, ∀ album ∈ store.rows .albums,
      album.credits actor = true → album ∈ store.albumsOfActor actor :=
    fun actor hactor album halbum hcredits =>
      (hperm actor hactor).mem_iff.2 (List.mem_filter.2 ⟨halbum, hcredits⟩)
  refine ⟨Listing.actorNames fields, Database.run_voiceActors hopen size hfields,
    Listing.nodup_key_actorNames fields, hkey, Listing.pairwise_actorNames fields,
    fun actor hactor => ?_, fun album halbum field hvalue hnames => ?_⟩
  · obtain ⟨album, halbum, field, hvalue, hname⟩ :=
      Listing.exists_album_of_mem_actorNames hfields hactor
    refine ⟨?_, hperm actor hactor, fun hordinary other _ => ?_, ?_⟩
    · exact List.ne_nil_of_mem (hgiven actor hactor album halbum
        (Row.credits_iff.2 ⟨field, hvalue, actor.toList, hname, rfl⟩))
    · exact Row.credits_iff_of_isOrdinary
        (Listing.nul_not_mem_key_of_mem_actorNames hfields hplain hactor) hordinary
    · dsimp only
      split
      · next hlong =>
          intro request hpage
          exact Database.queryAlbums_actor_of_long hopen hs size (hkey actor hactor) hlong halbum
            hpage
      · next hshort =>
          exact Database.givesPages_actor hopen hs size (hkey actor hactor)
            (Bool.eq_false_iff.2 hshort)
  · obtain ⟨name, hname⟩ := List.exists_mem_of_ne_nil _ hnames
    obtain ⟨actor, hactor, hsame⟩ := Listing.exists_mem_actorNames hfields halbum hvalue hname
    exact ⟨actor, hactor, hgiven actor hactor album halbum
      (Row.credits_iff.2 ⟨field, hvalue, name, hname, by rw [hsame]⟩)⟩

/-- The voice actors of an album are listed, and one of them gives it. -/
theorem actors_listed_and_picked_sample :
    let session : Session Database := { state := { store := .sample "one" } }
    session.state.closed = false ∧ session.state.store.Sound ∧
      session.state.store.HasPlainCredits ∧
      ∃ actors, ((LibraryService.voiceActors ⟨Database.adapter, 10⟩).run session).1 = .ok actors ∧
        (actors.map fun actor => Credits.key actor.toList).Nodup ∧
        ∃ actor ∈ actors, ∃ album ∈ session.state.store.albumsOfActor actor,
          album.value "cv" = .text "Aoi Yuki, Hana" := by
  intro session
  have hopen : session.state.closed = false := rfl
  have hs : session.state.store.Sound := by decide
  have hplain : session.state.store.HasPlainCredits := by decide
  obtain ⟨actors, hactors, hnodup, -, -, -, hall⟩ := actors_listed_and_picked hopen hs hplain 10
  obtain ⟨album, halbum, hvalue⟩ : ∃ album ∈ session.state.store.rows .albums,
      album.value "cv" = .text "Aoi Yuki, Hana" := by decide
  obtain ⟨actor, hactor, hgiven⟩ := hall album halbum _ hvalue (by decide)
  exact ⟨hopen, hs, hplain, actors, hactors, hnodup, actor, hactor, album, hgiven, hvalue⟩

namespace Credits

theorem fold_replicate (n : Nat) :
    fold (List.replicate n 'a') = List.replicate n 'a' := by
  have hkept : List.replicate n 'a' = (List.replicate n 'a').filter fun c => !isStripped c :=
    (List.filter_eq_self.2 fun c hc => by rw [List.eq_of_mem_replicate hc]; decide).symm
  unfold fold
  rw [← hkept, List.map_replicate, Text.foldCase, List.map_replicate]
  rfl

theorem key_replicate (n : Nat) : key (List.replicate n 'a') = List.replicate n 'a' := by
  refine (key_eq_fold fun c hc => ?_).trans (fold_replicate n)
  rw [List.eq_of_mem_replicate hc]
  decide

/-- A long name is a name. -/
theorem exists_mem_displayNames_replicate {n : Nat} (hn : n ≠ 0) :
    ∃ name ∈ displayNames (List.replicate n 'a'), key name = List.replicate n 'a' := by
  have hplain : ∀ c ∈ List.replicate n 'a', decide (c = separator) = false := by
    intro c hc
    rw [List.eq_of_mem_replicate hc]
    decide
  have hkeys : List.replicate n 'a' ∈ keys (List.replicate n 'a') := by
    unfold keys
    rw [fold_replicate, List.splitOnP_eq_singleton hplain]
    simpa using hn
  rw [keys_eq_map_key] at hkeys
  exact List.mem_map.1 hkeys

end Credits

/-- A listed name may give an album that has no name with its key, and a long one gives none. -/
theorem not_picked_by_key :
    (let session : Session Database :=
        { state := { store := .ofAlbums [[("cv", .text "\ufffd")], [("cv", .text "\uffff")]] } }
      ∃ actors, ((LibraryService.voiceActors ⟨Database.adapter, 10⟩).run session).1 = .ok actors ∧
        ∃ actor ∈ actors, ∃ album ∈ session.state.store.albumsOfActor actor,
          album.value "cv" = .text "\uffff" ∧
            ∀ name ∈ Credits.displayNames "\uffff".toList,
              Credits.key name ≠ Credits.key actor.toList) ∧
    let session : Session Database :=
      { state :=
          { store := .ofAlbums [[("cv", .text (String.ofList (List.replicate 50000 'a')))]] } }
    ∃ actors, ((LibraryService.voiceActors ⟨Database.adapter, 10⟩).run session).1 = .ok actors ∧
      ∃ actor ∈ actors, ∀ request : PageRequest, request.pageSize ≠ 0 →
        (LibraryService.queryAlbums ⟨Database.adapter, 10⟩
          (({} : FilterSpec).toggleVoiceActor actor) request).outcome session =
            (.error Database.longPatternError, session.state) := by
  refine ⟨?_, ?_⟩
  · intro session
    have hs : session.state.store.Sound := by decide
    have hplain : session.state.store.HasPlainCredits := by decide
    obtain ⟨fields, hfields⟩ := hplain.exists_fields
    obtain ⟨album, halbum, hvalue⟩ : ∃ album ∈ session.state.store.rows .albums,
        album.value "cv" = .text "\ufffd" := by decide
    obtain ⟨other, hother, hcv⟩ : ∃ album ∈ session.state.store.rows .albums,
        album.value "cv" = .text "\uffff" := by decide
    have hname : ['\ufffd'] ∈ Credits.displayNames "\ufffd".toList := by decide
    obtain ⟨actor, hactor, hkey⟩ := Listing.exists_mem_actorNames hfields halbum hvalue hname
    have hcredits : other.credits actor = true := by
      refine Row.credits_iff.2 ⟨_, hcv, ['\uffff'], by decide, ?_⟩
      rw [hkey]
      decide
    refine ⟨_, Database.run_voiceActors rfl 10 hfields, actor, hactor, other, ?_, hcv, ?_⟩
    · exact (Store.albumsOfActor_perm_of_listed hfields hs hplain hactor).mem_iff.2
        (List.mem_filter.2 ⟨hother, hcredits⟩)
    · rw [hkey]
      decide
  · obtain ⟨name, hname, hkey⟩ := Credits.exists_mem_displayNames_replicate (n := 50000) (by omega)
    rw [← String.toList_ofList (l := List.replicate 50000 'a')] at hname
    have hlong : maxPatternSize ≤ (Credits.key name).length := by
      rw [hkey, List.length_replicate]
      exact Nat.le_refl _
    have hnul : '\x00' ∉ (String.ofList (List.replicate 50000 'a')).toList := by
      rw [String.toList_ofList]
      intro h
      exact absurd (List.eq_of_mem_replicate h) (by decide)
    -- what is left holds of any field, and so the long one need not be computed
    generalize String.ofList (List.replicate 50000 'a') = field at hname hnul ⊢
    intro session
    have hs : session.state.store.Sound := of_decide_eq_true rfl
    have hplain : session.state.store.HasPlainCredits :=
      List.forall_mem_singleton.2 ⟨field, rfl, hnul⟩
    exact Database.exists_refused_actor rfl hs hplain 10 List.mem_cons_self rfl hname hlong

end AudioLibrary
