import AudioLibrary.Proofs.Query.Readable
import AudioLibrary.Proofs.Query.Streaming
import AudioLibrary.Store.Database

/-!
# Pages of a library that does not change

`Adapter.Steady` says that an adapter counts and shows the rows that a query has in given tables, as
long as its own state is `ready`, which it stays.  What a call gets to see is then one list
throughout, the rows of the query.

A paged call gives a slice of this list and its length (`Action.GivesPage`).  If there are fewer
rows than words, the slices are windows, those of consecutive page numbers follow on each other, and
the number of pages is the number of windows that hold a row, so that a stream gives the list
itself: what is left of it, `TrackStream.left`, loses a row with each step that hands one out and
nothing with the others.
-/

namespace AudioLibrary

open AudioLibrary.Relational

/-! ## Windows of a list -/

namespace PageRequest

variable {α β ε : Type} (request : PageRequest)

theorem mapM_window {read : α → Except ε β} {as : List α} {bs : List β}
    (h : as.mapM read = .ok bs) : (request.window as).mapM read = .ok (request.window bs) := by
  rw [mapM_eq_ok_iff] at h ⊢
  rw [window, window, List.map_take, List.map_take, List.map_drop, List.map_drop, h]

end PageRequest

/-! ## Adapters that answer from tables -/

/-- What is read of a number of rows, which is counted in 64 bits. -/
def LibraryService.counted (n : Nat) : UInt64 := .ofNat (Int64.ofNat n).toInt.toNat

theorem LibraryService.toNat_counted {n : Nat} (h : n < 2 ^ 63) : (counted n).toNat = n := by
  unfold counted
  rw [toNat_number, Int64.toInt_ofNat_of_lt h, Int.toNat_natCast]

namespace Adapter

variable {σ α : Type}

/-- In every state that is `ready` an adapter counts and shows the rows that a query has in some
tables, and it is ready again. -/
structure Steady (a : Adapter σ) (ready : σ → Prop) (tables : Tables) (q : LibraryQuery) :
    Prop where
  count : ∀ state, ready state → ∀ row ∈ q.count.statement.rows tables,
    (a.queryOne q.count.statement state).result = .ok row ∧
      ready (a.queryOne q.count.statement state).state
  page : ∀ request state, ready state →
    (a.query (q.page request).statement state).result =
        .ok ((q.page request).statement.rows tables) ∧
      ready (a.query (q.page request).statement state).state

variable {a : Adapter σ} {ready : σ → Prop} {tables : Tables} {q : LibraryQuery}

/-- What a paged call reads is a slice of the rows, and their number. -/
theorem Steady.readWindow (h : a.Steady ready tables q) (request : PageRequest)
    (read : Row → Except LibraryError α) {state : σ} (hready : ready state) :
    let rows := q.statement.rows tables
    (a.readWindow q request read state).1 =
        ((request.slice rows).mapM read).map (LibraryService.counted rows.length, ·) ∧
      ready (a.readWindow q request read state).2 := by
  intro rows
  obtain ⟨hcount, hcounted⟩ := h.count state hready _ (List.mem_singleton_self _)
  obtain ⟨hpage, hlisted⟩ := h.page request _ hcounted
  have hnumber : ((a.queryOne q.count.statement state).result.mapError LibraryError.bridge).bind
      LibraryService.readCount = .ok (LibraryService.counted rows.length) := by
    rw [hcount]
    rfl
  have hslice : (q.page request).statement.rows tables = request.slice rows :=
    (request.slice_eq_take_drop rows).symm
  unfold Adapter.readWindow
  dsimp only
  rw [hnumber]
  dsimp only
  rw [hpage, hslice]
  exact ⟨rfl, hlisted⟩

end Adapter

/-! ## Databases -/

/-- A statement that can be read and comes to no long pattern is not refused. -/
theorem Relational.Statement.run_eq_ok {s : Statement} {tables : Tables}
    (hcheck : s.check = .ok ()) (hshort : s.meetsLongPattern tables = false) :
    s.run tables = .ok (s.rows tables) := by
  unfold Statement.run
  rw [hcheck, hshort, Bool.and_false]
  rfl

/-- An open database answers a query from its tables, if the query can be read and comes to no long
pattern. -/
theorem Database.steady {db : Database} {q : LibraryQuery} (hopen : db.closed = false)
    (hcount : q.count.statement.check = .ok ())
    (hwindow : ∀ request, (q.page request).statement.check = .ok ())
    (hshort : q.statement.meetsLongPattern db.store.tables = false) :
    Database.adapter.Steady (· = db) db.store.tables q where
  count := by
    rintro state rfl row hrow
    have hrows : state.rows "Query one" q.count.statement = .ok [row] := by
      unfold Database.rows
      rw [hopen, Statement.run_eq_ok hcount hshort, List.mem_singleton.1 hrow]
      rfl
    refine ⟨?_, rfl⟩
    show (state.rows "Query one" q.count.statement).bind _ = _
    rw [hrows]
    rfl
  page := by
    rintro request state rfl
    refine ⟨?_, rfl⟩
    show state.rows "Query" (q.page request).statement = _
    unfold Database.rows
    rw [hopen, Statement.run_eq_ok (hwindow request) hshort]
    rfl

/-! ## Paged calls -/

/-- In every ready state a call answers a request with some rows, all of them read, and their number
on all pages, or it gives the first error of a row; the state is ready afterwards. -/
def Action.GivesPage {σ α : Type} (call : Action LibraryError σ (Page α)) (ready : σ → Prop)
    (request : PageRequest) (rows : List Row) (count : Nat)
    (read : Row → Except LibraryError α) : Prop :=
  ∀ session, ready session.state →
    (∀ items, rows.mapM read = .ok items →
      ∃ p, (call.run session).1 = .ok p ∧ p.Answers request items count) ∧
    (∀ e, rows.mapM read = .error e → (call.run session).1 = .error e) ∧
    ready (call.run session).2.state

theorem Adapter.Steady.givesPage {σ α : Type} {a : Adapter σ} {ready : σ → Prop} {tables : Tables}
    {q : LibraryQuery} (h : a.Steady ready tables q) {request : PageRequest}
    {read : Row → Except LibraryError α} {call : Action LibraryError σ (Page α)}
    (hcall : ∀ session, call.outcome session =
      let window := a.readWindow q request read session.state
      (window.1.map (LibraryService.pageOf request), window.2)) :
    let rows := q.statement.rows tables
    call.GivesPage ready request (request.slice rows) (LibraryService.counted rows.length).toNat
      read := by
  intro rows session hready
  obtain ⟨hresult, hstate⟩ := Prod.mk.inj (hcall session)
  obtain ⟨hwindow, hnext⟩ := h.readWindow request read hready
  rw [hwindow] at hresult
  refine ⟨fun items hitems => ?_, fun e he => ?_, hstate ▸ hnext⟩
  · rw [hitems] at hresult
    exact ⟨_, hresult, Page.answers_ofRequest items _ request⟩
  · rw [he] at hresult
    exact hresult

/-- The slices of fewer rows than words are windows. -/
theorem Adapter.Steady.givesPage_window {σ α : Type} {a : Adapter σ} {ready : σ → Prop}
    {tables : Tables} {q : LibraryQuery} (h : a.Steady ready tables q)
    (hfew : (q.statement.rows tables).length < 2 ^ 32) {request : PageRequest}
    {read : Row → Except LibraryError α} {call : Action LibraryError σ (Page α)}
    (hcall : ∀ session, call.outcome session =
      let window := a.readWindow q request read session.state
      (window.1.map (LibraryService.pageOf request), window.2)) :
    let rows := q.statement.rows tables
    call.GivesPage ready request (request.window rows) rows.length read := by
  intro rows
  have hgives := h.givesPage hcall
  dsimp only at hgives
  rwa [request.slice_eq_window hfew,
    LibraryService.toNat_counted (Nat.lt_trans hfew (by decide))] at hgives

/-! ## Streams -/

namespace TrackStream

/-- The rows of a list that a stream has not yet handed out. -/
def left (tracks : List TrackRow) (stream : TrackStream) : List TrackRow :=
  stream.buffer ++
    match stream.next with
    | none => []
    | some request => tracks.drop (request.page.toNat * request.pageSize.toNat)

/-- A page takes its rows from those that are left and leaves the others. -/
theorem left_afterPage {stream : TrackStream} {request : PageRequest} {tracks : List TrackRow}
    {total : UInt64} (htotal : total.toNat = tracks.length) (hfew : tracks.length < 2 ^ 32)
    (hsize : request.pageSize ≠ 0) :
    (stream.afterPage (LibraryService.pageOf request (total, request.window tracks))).left tracks =
      tracks.drop (request.page.toNat * request.pageSize.toNat) := by
  have hnext : (request.page.toNat + 1) * request.pageSize.toNat =
      request.page.toNat * request.pageSize.toNat + request.pageSize.toNat := Nat.succ_mul _ _
  show request.window tracks ++ _ = _
  rcases hannounced : (LibraryService.pageOf request (total, request.window tracks)).nextRequest
    with _ | following
  · have hlast : ¬request.page.toNat + 1 < (Page.pageCount total request.pageSize).toNat := by
      intro hlt
      have := hannounced.symm.trans (Page.nextRequest_eq_some_iff.2 ⟨hlt, rfl⟩)
      cases this
    have hend : tracks.length ≤ (request.page.toNat + 1) * request.pageSize.toNat :=
      htotal ▸ Page.le_mul_of_pageCount_le hsize (htotal ▸ hfew) (Nat.le_of_not_lt hlast)
    simp only [afterPage, hannounced, List.append_nil]
    refine List.take_of_length_le ?_
    rw [List.length_drop]
    omega
  · have hnumber := Page.page_of_nextRequest hannounced
    obtain ⟨-, rfl⟩ := Page.nextRequest_eq_some_iff.1 hannounced
    simp only [afterPage, hannounced]
    rw [hnumber]
    show request.window tracks ++
      tracks.drop ((request.page.toNat + 1) * request.pageSize.toNat) = _
    rw [hnext, ← List.drop_drop]
    exact List.take_append_drop _ _

variable {σ : Type} {service : LibraryService σ} {ready : σ → Prop} {tables : Tables}

/-- A page is read from the tracks, and their number with it. -/
theorem window_of_run {spec : FilterSpec} {request : PageRequest} {session session' : Session σ}
    {tracks : List TrackRow} {result : Except LibraryError (UInt64 × List TrackRow)}
    (h : service.adapter.Steady ready tables (.compile .tracks spec))
    (htracks : ((LibraryQuery.compile .tracks spec).statement.rows tables).mapM TrackRow.ofRow =
      .ok tracks) (hfew : tracks.length < 2 ^ 32)
    (hpage : request.pageSize ≠ 0) (hready : ready session.state)
    (hrun : (service.trackWindow spec request).run session = (result, session')) :
    result = .ok (LibraryService.counted tracks.length, request.window tracks) ∧
      ready session'.state := by
  have houtcome := service.outcome_trackWindow spec request session hpage
  rw [Action.outcome_of_run hrun] at houtcome
  obtain ⟨hwindow, hnext⟩ := h.readWindow request TrackRow.ofRow hready
  have hlength := length_of_mapM_eq_ok htracks
  rw [← houtcome, request.slice_eq_window (hlength ▸ hfew), request.mapM_window htracks,
    hlength] at hwindow
  rw [← houtcome] at hnext
  exact ⟨hwindow, hnext⟩

/-- Collecting gives the rows that are left, and then the stream ends. -/
theorem collect_eq_left {stream : TrackStream} {session : Session σ} {tracks : List TrackRow}
    (h : service.adapter.Steady ready tables (.compile .tracks stream.spec))
    (htracks : ((LibraryQuery.compile .tracks stream.spec).statement.rows tables).mapM
      TrackRow.ofRow = .ok tracks) (hfew : tracks.length < 2 ^ 32)
    (hsize : service.pageSize ≠ 0) (hnext : stream.Ready service.pageSize)
    (hready : ready session.state) :
    (collect service none stream session).1 = (stream.left tracks, .done) := by
  -- the cases are those of `collect`: no rows are wanted, a row, a page, the end, an error
  generalize hlimit : (none : Option Nat) = limit
  fun_induction collect service limit stream session with
  | case1 => cases hlimit
  | case2 limit stream session _ track rest session' hstep _ collected ending last hrest ih =>
      obtain ⟨tail, hbuffer, rfl, rfl⟩ := of_step_row hstep
      subst hlimit
      have hih := ih h htracks hnext hready rfl
      rw [hrest] at hih
      obtain ⟨hcollected, hending⟩ := Prod.mk.inj hih
      show (track :: collected, ending) = (stream.left tracks, .done)
      rw [hcollected, hending, left, left, hbuffer]
      rfl
  | case3 limit stream session _ rest session' hstep _ ih =>
      obtain ⟨request, window, hbuffer, hrequest, hread, rfl⟩ := of_step_fetched hstep
      have hpage : request.pageSize ≠ 0 := (hnext request hrequest).1 ▸ hsize
      obtain ⟨hwindow, hready'⟩ := window_of_run h htracks hfew hpage hready hread
      obtain rfl := Except.ok.inj hwindow
      rw [ih h htracks (hnext.afterPage hrequest) hready' hlimit]
      have htotal := LibraryService.toNat_counted (Nat.lt_trans hfew (by decide))
      rw [left_afterPage htotal hfew hpage, left, hbuffer, hrequest]
      rfl
  | case4 limit stream session _ session' hstep =>
      obtain ⟨hbuffer, hrequest, rfl⟩ := of_step_done hstep
      rw [left, hbuffer, hrequest]
      rfl
  | case5 limit stream session _ e session' hstep =>
      obtain ⟨request, hbuffer, hrequest, hread⟩ := of_step_failed hstep
      have hpage : request.pageSize ≠ 0 := (hnext request hrequest).1 ▸ hsize
      cases (window_of_run h htracks hfew hpage hready hread).1

end TrackStream

/-! ## The calls of a library that does not change -/

section

variable {σ : Type}

/-- **Pages are windows of the rows of a query and streams are all of them**, whatever the size of
pages, as long as the store does not change and there are fewer rows than words; and in a library
whose text columns hold texts all rows can be read. -/
theorem pages_eq_windows (service : LibraryService σ) (ready : σ → Prop) (tables : Tables)
    (spec : FilterSpec) :
    let rows (shape : Shape) := (LibraryQuery.compile shape spec).statement.rows tables
    let steady (shape : Shape) :=
      service.adapter.Steady ready tables (.compile shape spec) ∧ (rows shape).length < 2 ^ 32
    (∀ request, request.pageSize ≠ 0 →
      (steady .albums → (service.queryAlbums spec request).GivesPage ready request
        (request.window (rows .albums)) (rows .albums).length Album.ofRow) ∧
      (steady .tracks → (service.queryTracks spec request).GivesPage ready request
        (request.window (rows .tracks)) (rows .tracks).length TrackRow.ofRow) ∧
      (steady .headers → (service.queryHeaders spec request).GivesPage ready request
        (request.window (rows .headers)) (rows .headers).length AlbumHeader.ofRow)) ∧
    (service.pageSize ≠ 0 → steady .tracks →
      ∃ stream, service.streamTracks spec = .ok stream ∧
        ∀ session tracks, ready session.state →
          (rows .tracks).mapM TrackRow.ofRow = .ok tracks →
          (stream.collect service none session).1 = (tracks, .done)) ∧
    ∀ s : Store, s.Sound → s.Textual → s.tables = tables →
      (∃ albums, (rows .albums).mapM Album.ofRow = .ok albums) ∧
        (∃ tracks, (rows .tracks).mapM TrackRow.ofRow = .ok tracks) ∧
        ∃ headers, (rows .headers).mapM AlbumHeader.ofRow = .ok headers := by
  intro rows steady
  refine ⟨fun request hpage => ⟨?_, ?_, ?_⟩, fun hsize => ?_, ?_⟩
  · rintro ⟨hsteady, hfew⟩
    exact hsteady.givesPage_window hfew fun session =>
      service.outcome_queryAlbums spec request session hpage
  · rintro ⟨hsteady, hfew⟩
    exact hsteady.givesPage_window hfew fun session =>
      service.outcome_queryTracks spec request session hpage
  · rintro ⟨hsteady, hfew⟩
    exact hsteady.givesPage_window hfew fun session =>
      service.outcome_queryHeaders spec request session hpage
  · rintro ⟨hsteady, hfew⟩
    let stream : TrackStream := { spec, next := some (.first service.pageSize) }
    refine ⟨stream, service.streamTracks_eq_ok spec hsize, fun session tracks hready htracks => ?_⟩
    have hlength : tracks.length < 2 ^ 32 := length_of_mapM_eq_ok htracks ▸ hfew
    have hcollect : (stream.collect service none session).1 = (stream.left tracks, .done) :=
      TrackStream.collect_eq_left hsteady htracks hlength hsize
        (TrackStream.ready_of_next_eq_first rfl) hready
    have hleft : stream.left tracks = tracks := by
      show [] ++ tracks.drop (0 * service.pageSize.toNat) = tracks
      rw [Nat.zero_mul, List.drop_zero, List.nil_append]
    rw [hcollect, hleft]
  · rintro s hs ht rfl
    exact ⟨Shape.exists_albums hs ht spec, Shape.exists_tracks hs ht spec,
      Shape.exists_headers hs ht spec⟩

/-- Of four tracks three are found, and the second page of two holds the last of them. -/
theorem pages_eq_windows_sample :
    let db : Database := { store := .shelf }
    let service : LibraryService Database := ⟨Database.adapter, 2⟩
    let spec : FilterSpec := { circles := .ofList ["Rain"] }
    let rows (shape : Shape) := (LibraryQuery.compile shape spec).statement.rows db.store.tables
    (∀ shape ∈ [Shape.albums, .tracks, .headers],
      Database.adapter.Steady (· = db) db.store.tables (.compile shape spec) ∧
        (rows shape).length < 2 ^ 32) ∧
    db.store.Sound ∧ db.store.Textual ∧
    ∃ stream tracks, service.streamTracks spec = .ok stream ∧
      (rows .tracks).mapM TrackRow.ofRow = .ok tracks ∧ tracks.length = 3 ∧
      (stream.collect service none { state := db }).1 = (tracks, .done) ∧
      ∃ p, ((service.queryTracks spec ⟨1, 2⟩).run { state := db }).1 = .ok p ∧
        p.items = tracks.drop 2 ∧ p.items.length = 1 ∧ p.total = 3 ∧ p.totalPages = 2 := by
  intro db service spec rows
  have hs : db.store.Sound := by decide
  have ht : db.store.Textual := Store.Legible.textual (by decide)
  have hsteady : ∀ shape ∈ [Shape.albums, .tracks, .headers],
      Database.adapter.Steady (· = db) db.store.tables (.compile shape spec) ∧
        (rows shape).length < 2 ^ 32 := by
    intro shape hshape
    simp only [List.mem_cons, List.not_mem_nil, or_false] at hshape
    rcases hshape with rfl | rfl | rfl <;>
      exact ⟨Database.steady rfl rfl (fun _ => rfl) (by decide +kernel),
        (Shape.length_rows_compile hs _ spec).trans_lt (by decide)⟩
  obtain ⟨hpages, hstream, hreadable⟩ := pages_eq_windows service (· = db) db.store.tables spec
  obtain ⟨-, ⟨tracks, htracks⟩, -⟩ := hreadable db.store hs ht rfl
  have hrows : (rows .tracks).length = 3 :=
    (Shape.length_rows_compile hs .tracks spec).trans (by decide)
  have hfound : tracks.length = 3 := (length_of_mapM_eq_ok htracks).symm.trans hrows
  obtain ⟨stream, hstart, hcollect⟩ := hstream (by decide) (hsteady .tracks (by decide))
  obtain ⟨p, hp, hanswers⟩ :=
    ((hpages ⟨1, 2⟩ (by decide)).2.1 (hsteady .tracks (by decide)) { state := db } rfl).1 _
      (PageRequest.mapM_window ⟨1, 2⟩ htracks)
  have hitems : p.items = tracks.drop 2 := by
    rw [hanswers.items]
    exact List.take_of_length_le (by rw [List.length_drop, hfound]; decide)
  refine ⟨hsteady, hs, ht, stream, tracks, hstart, htracks, hfound,
    hcollect { state := db } tracks rfl htracks, p, hp, hitems, ?_, ?_, ?_⟩
  · rw [hitems, List.length_drop, hfound]
  · exact UInt64.toNat_inj.1 (hanswers.total.trans hrows)
  · rw [hanswers.totalPages, hrows]
    decide

end

end AudioLibrary
