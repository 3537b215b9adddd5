import AudioLibrary.Proofs.Page
import AudioLibrary.Proofs.Query.Calls
import AudioLibrary.Proofs.Query.Readable

/-!
# How a paged call ends

A paged call asks the adapter for the number of rows and then for a window of them, and what the
adapter answers may be anything.  `PagedEnding` lists the ways in which the call then ends: it gives
all rows of the window, or one error and nothing else.

* `PagedEnding.readWindow`: what each way comes to.
* `exists_pagedEnding`: there are no others.
* `paged_calls_end`: so every call ends in exactly one of them.
-/

namespace AudioLibrary

open AudioLibrary.Relational

variable {σ α : Type}

namespace Adapter

/-- What an adapter answers when it is asked for the number of rows. -/
def counted (a : Adapter σ) (q : LibraryQuery) (state : σ) : Answer σ Row :=
  a.queryOne q.count.statement state

/-- What it answers when it is asked for a window of the rows after that. -/
def listed (a : Adapter σ) (q : LibraryQuery) (request : PageRequest) (state : σ) :
    Answer σ (List Row) :=
  a.query (q.page request).statement (a.counted q state).state

end Adapter

/-- A way for a paged call to end: what has been sent, how the adapter is left, and the result. -/
inductive PagedEnding (a : Adapter σ) (q : LibraryQuery) (request : PageRequest)
    (needs : List (String × Row.Need)) (reading : Row → α) (state : σ) :
    List Adapter.Sent → σ → Except LibraryError (Page α) → Prop where
  /-- Nothing is asked for where pages hold no row. -/
  | refused (hsize : request.pageSize = 0) :
      PagedEnding a q request needs reading state [] state
        (.error (.invalidInput "page_size" "page size must be at least 1"))
  /-- The adapter does not tell the number of rows. -/
  | uncounted (hsize : request.pageSize ≠ 0) {e : BridgeError}
      (hcounted : (a.counted q state).result = .error e) :
      PagedEnding a q request needs reading state [⟨.one, q.count.statement⟩]
        (a.counted q state).state (.error (.bridge e))
  /-- What it tells is no number. -/
  | numberless (hsize : request.pageSize ≠ 0) {row : Row}
      (hcounted : (a.counted q state).result = .ok row)
      (hnumber : ∀ n, row.value "count" ≠ .integer n) :
      PagedEnding a q request needs reading state [⟨.one, q.count.statement⟩]
        (a.counted q state).state
        (.error (.invalidInput "count" "missing column in result set"))
  /-- It does not give the window. -/
  | unlisted (hsize : request.pageSize ≠ 0) {row : Row} {n : Int64} {e : BridgeError}
      (hcounted : (a.counted q state).result = .ok row) (hnumber : row.value "count" = .integer n)
      (hlisted : (a.listed q request state).result = .error e) :
      PagedEnding a q request needs reading state (q.calls request)
        (a.listed q request state).state (.error (.bridge e))
  /-- A row of the window lacks something, and none before it does. -/
  | unreadable (hsize : request.pageSize ≠ 0) {row lacking : Row} {n : Int64}
      {before after : List Row} {column : String}
      (hcounted : (a.counted q state).result = .ok row) (hnumber : row.value "count" = .integer n)
      (hlisted : (a.listed q request state).result = .ok (before ++ lacking :: after))
      (hbefore : ∀ row ∈ before, row.lacking? needs = none)
      (hlacking : lacking.lacking? needs = some column) :
      PagedEnding a q request needs reading state (q.calls request)
        (a.listed q request state).state
        (.error (.invalidInput column "missing column in result set"))
  /-- All rows of the window are read and shown in their order, with the number that was told; a
  negative one counts as none. -/
  | page (hsize : request.pageSize ≠ 0) {row : Row} {n : Int64} {rows : List Row} {p : Page α}
      (hcounted : (a.counted q state).result = .ok row) (hnumber : row.value "count" = .integer n)
      (hlisted : (a.listed q request state).result = .ok rows)
      (hrows : ∀ row ∈ rows, row.lacking? needs = none)
      (hanswers : p.Answers request (rows.map reading) n.toInt.toNat) :
      PagedEnding a q request needs reading state (q.calls request)
        (a.listed q request state).state (.ok p)

section Endings

variable {a : Adapter σ} {q : LibraryQuery} {request : PageRequest}
  {needs : List (String × Row.Need)} {reading : Row → α} {read : Row → Except LibraryError α}
  {state last : σ} {sent log : List Adapter.Sent} {result : Except LibraryError (Page α)}

/-- A number that is told in 64 bits fits into 64 bits without a sign. -/
theorem LibraryService.toNat_number (n : Int64) :
    (UInt64.ofNat n.toInt.toNat).toNat = n.toInt.toNat := by
  have hlt := n.toInt_lt
  have hsize : UInt64.size = 2 ^ 64 := rfl
  exact UInt64.toNat_ofNat_of_lt' (by omega)

/-- A page answers with the number that is told. -/
theorem LibraryService.answers_pageOf (items : List α) (n : Int64) (request : PageRequest) :
    (pageOf request (.ofNat n.toInt.toNat, items)).Answers request items n.toInt.toNat := by
  have hanswers := Page.answers_ofRequest items (.ofNat n.toInt.toNat) request
  rwa [toNat_number] at hanswers

/-- There is a way for every call. -/
theorem exists_pagedEnding (a : Adapter σ) (q : LibraryQuery) (request : PageRequest)
    (needs : List (String × Row.Need)) (reading : Row → α) (state : σ) :
    ∃ sent last result, PagedEnding a q request needs reading state sent last result := by
  by_cases hsize : request.pageSize = 0
  · exact ⟨_, _, _, .refused hsize⟩
  rcases hcounted : (a.counted q state).result with e | row
  · exact ⟨_, _, _, .uncounted hsize hcounted⟩
  by_cases hnumber : ∃ n, row.value "count" = .integer n
  · obtain ⟨n, hnumber⟩ := hnumber
    rcases hlisted : (a.listed q request state).result with e | rows
    · exact ⟨_, _, _, .unlisted hsize hcounted hnumber hlisted⟩
    rcases hfound : rows.findSome? (Row.lacking? needs) with _ | column
    · exact ⟨_, _, _, .page hsize hcounted hnumber hlisted (List.findSome?_eq_none_iff.1 hfound)
        (LibraryService.answers_pageOf _ n request)⟩
    · obtain ⟨before, lacking, after, rfl, hlacking, hbefore⟩ :=
        List.findSome?_eq_some_iff.1 hfound
      exact ⟨_, _, _, .unreadable hsize hcounted hnumber hlisted hbefore hlacking⟩
  · exact ⟨_, _, _, .numberless hsize hcounted (not_exists.1 hnumber)⟩

theorem readCount_of_number {row : Row} {n : Int64} (h : row.value "count" = .integer n) :
    LibraryService.readCount row = .ok (.ofNat n.toInt.toNat) := by
  have hread : row.requireInteger Statement.countColumn = .ok n := Row.requireInteger_eq_ok h
  unfold LibraryService.readCount
  rw [hread]
  rfl

theorem readCount_of_numberless {row : Row} (h : ∀ n, row.value "count" ≠ .integer n) :
    LibraryService.readCount row = .error (Row.missingColumn "count") := by
  have hread : row.requireInteger Statement.countColumn = .error (Row.missingColumn "count") :=
    Row.require_eq_error fun n hn => h n (Row.requireInteger_eq_ok_iff.1 hn)
  unfold LibraryService.readCount
  rw [hread]
  rfl

/-- An adapter that keeps what it is sent answers as it does otherwise. -/
theorem Adapter.readWindow_recorded (a : Adapter σ) (q : LibraryQuery) (request : PageRequest)
    (read : Row → Except LibraryError α) (state : σ) (log : List Sent) :
    a.recorded.readWindow q request read (state, log) =
      match ((a.counted q state).result.mapError .bridge).bind LibraryService.readCount with
      | .error e => (.error e, (a.counted q state).state, log ++ [⟨.one, q.count.statement⟩])
      | .ok total =>
          ((((a.listed q request state).result.mapError .bridge).bind
            fun rows => rows.mapM read).map (total, ·),
            (a.listed q request state).state, log ++ q.calls request) := by
  have hlog : (log ++ [⟨.one, q.count.statement⟩]) ++ [⟨.all, (q.page request).statement⟩] =
      log ++ q.calls request := List.append_assoc ..
  rw [← hlog]
  rfl

/-- What a way comes to, for a page that could hold a row. -/
theorem PagedEnding.readWindow (h : PagedEnding a q request needs reading state sent last result)
    (hsize : request.pageSize ≠ 0) (hread : Row.ReadsBy read needs reading)
    (log : List Adapter.Sent) :
    ((a.recorded.readWindow q request read (state, log)).1.map (LibraryService.pageOf request),
      (a.recorded.readWindow q request read (state, log)).2) = (result, last, log ++ sent) := by
  have hnumbered : ∀ {row : Row} {n : Int64}, (a.counted q state).result = .ok row →
      row.value "count" = .integer n →
      ((a.counted q state).result.mapError LibraryError.bridge).bind LibraryService.readCount =
        .ok (.ofNat n.toInt.toNat) := by
    intro row n hcounted hnumber
    rw [hcounted]
    exact readCount_of_number hnumber
  rw [a.readWindow_recorded]
  cases h with
  | refused hzero => exact absurd hzero hsize
  | uncounted _ hcounted =>
      rw [hcounted]
      rfl
  | numberless _ hcounted hnumber =>
      have hcount : ((a.counted q state).result.mapError LibraryError.bridge).bind
          LibraryService.readCount = .error (Row.missingColumn "count") := by
        rw [hcounted]
        exact readCount_of_numberless hnumber
      rw [hcount]
      rfl
  | unlisted _ hcounted hnumber hlisted =>
      rw [hnumbered hcounted hnumber, hlisted]
      rfl
  | @unreadable _ _ lacking _ before after column hcounted hnumber hlisted hbefore hlacking =>
      have hfirst : (before ++ lacking :: after).findSome? (Row.lacking? needs) = some column :=
        List.findSome?_eq_some_iff.2 ⟨before, lacking, after, rfl, hlacking, hbefore⟩
      have hitems : ((a.listed q request state).result.mapError LibraryError.bridge).bind
          (fun rows => rows.mapM read) = .error (Row.missingColumn column) := by
        rw [hlisted]
        show (before ++ lacking :: after).mapM read = _
        rw [hread.mapM_eq, hfirst]
      rw [hnumbered hcounted hnumber]
      dsimp only
      rw [hitems]
      rfl
  | @page _ _ n rows _ hcounted hnumber hlisted hrows hanswers =>
      have hitems : ((a.listed q request state).result.mapError LibraryError.bridge).bind
          (fun rows => rows.mapM read) = .ok (rows.map reading) := by
        rw [hlisted]
        exact hread.mapM_eq_ok_iff.2 ⟨hrows, rfl⟩
      rw [hnumbered hcounted hnumber]
      dsimp only
      rw [hitems, hanswers.unique (LibraryService.answers_pageOf (rows.map reading) n request)]
      rfl

/-- A call that succeeds has sent both statements, -/
theorem PagedEnding.sent_of_ok {p : Page α}
    (h : PagedEnding a q request needs reading state sent last (.ok p)) :
    sent = q.calls request := by
  cases h
  rfl

/-- and one that fails the first or both. -/
theorem PagedEnding.sent_of_error {e : LibraryError}
    (h : PagedEnding a q request needs reading state sent last (.error e))
    (hsize : request.pageSize ≠ 0) : sent ≠ [] ∧ sent <+: q.calls request := by
  cases h with
  | refused hzero => exact absurd hzero hsize
  | uncounted | numberless => exact ⟨List.cons_ne_nil _ _, ⟨_, rfl⟩⟩
  | unlisted | unreadable => exact ⟨List.cons_ne_nil _ _, List.prefix_rfl⟩

end Endings

/-! ## Calls -/

namespace LibraryService

variable {s : LibraryService σ} {q : LibraryQuery} {request : PageRequest}
  {read : Row → Except LibraryError α} {spec : FilterSpec}

/-- Nothing is sent for a page that could hold no row. -/
theorem outcome_fetchWindow_of_zero (h : request.pageSize = 0) (session : Session σ) :
    (s.fetchWindow q request read).outcome session =
      (.error (.invalidInput "page_size" "page size must be at least 1"), session.state) := by
  have hsize : checkPageSize request.pageSize =
      .error (.invalidInput "page_size" "page size must be at least 1") := if_pos h
  unfold fetchWindow
  rw [hsize]
  rfl

/-- A call makes a page of a window of a query. -/
def Pages (s : LibraryService σ) (q : LibraryQuery) (request : PageRequest)
    (read : Row → Except LibraryError α) (call : Action LibraryError σ (Page α)) : Prop :=
  ∀ session, ∃ session' : Session σ, session'.state = session.state ∧
    call.outcome session = (pageOf request <$> s.fetchWindow q request read).outcome session'

theorem pages_queryAlbums : s.Pages (.compile .albums spec) request Album.ofRow
    (s.queryAlbums spec request) :=
  fun session => outcome_compiling spec session "query_albums" .albums _

theorem pages_queryHeaders : s.Pages (.compile .headers spec) request AlbumHeader.ofRow
    (s.queryHeaders spec request) :=
  fun session => outcome_compiling spec session "query_track_album_headers" .headers _

theorem pages_queryTracks : s.Pages (.compile .tracks spec) request TrackRow.ofRow
    (s.queryTracks spec request) := by
  intro session
  obtain ⟨session', hstate, hrun⟩ := outcome_compiling spec session "query_tracks" .tracks
    fun q => s.fetchWindow q request TrackRow.ofRow
  refine ⟨session', hstate, ?_⟩
  rw [queryTracks, Action.outcome_map, trackWindow, hrun, Action.outcome_map]

/-- A way to end is what a call comes to. -/
theorem Pages.outcome {a : Adapter σ} {size : UInt32}
    {call : Action LibraryError (σ × List Adapter.Sent) (Page α)}
    (hcall : Pages ⟨a.recorded, size⟩ q request read call) {needs : List (String × Row.Need)}
    {reading : Row → α} (hread : Row.ReadsBy read needs reading)
    {session : Session (σ × List Adapter.Sent)} {sent : List Adapter.Sent} {last : σ}
    {result : Except LibraryError (Page α)}
    (h : PagedEnding a q request needs reading session.state.1 sent last result) :
    call.outcome session = (result, last, session.state.2 ++ sent) := by
  obtain ⟨session', hstate, hrun⟩ := hcall session
  rw [hrun, Action.outcome_map]
  by_cases hsize : request.pageSize = 0
  · rw [outcome_fetchWindow_of_zero hsize, hstate]
    cases h with
    | refused _ =>
        rw [List.append_nil]
        rfl
    | uncounted hpage | numberless hpage | unlisted hpage | unreadable hpage | page hpage =>
        exact absurd hsize hpage
  · rw [outcome_fetchWindow _ _ _ _ _ hsize, hstate]
    exact h.readWindow hsize hread session.state.2

/-- What a window of tracks comes to is a way to end. -/
theorem exists_sent_trackWindow {a : Adapter σ} {size : UInt32}
    {session session' : Session (σ × List Adapter.Sent)}
    {result : Except LibraryError (UInt64 × List TrackRow)}
    (hrun : (trackWindow ⟨a.recorded, size⟩ spec request).run session = (result, session')) :
    ∃ sent, session'.state.2 = session.state.2 ++ sent ∧
      PagedEnding a (.compile .tracks spec) request TrackRow.needs TrackRow.reading session.state.1
        sent session'.state.1 (result.map (pageOf request)) := by
  obtain ⟨sent, last, ending, hending⟩ := exists_pagedEnding a (.compile .tracks spec) request
    TrackRow.needs TrackRow.reading session.state.1
  have houtcome : (queryTracks ⟨a.recorded, size⟩ spec request).outcome session = _ :=
    pages_queryTracks.outcome TrackRow.readsBy hending
  rw [queryTracks, Action.outcome_map, Action.outcome_of_run hrun] at houtcome
  obtain ⟨rfl, hstate⟩ := Prod.mk.inj houtcome
  obtain ⟨rfl, hsent⟩ := Prod.mk.inj hstate
  exact ⟨sent, hsent, hending⟩

end LibraryService

/-- In every session a call ends in one of the ways for a paged call, and in no other. -/
def Action.EndsInOneWay (call : Action LibraryError (σ × List Adapter.Sent) (Page α))
    (a : Adapter σ) (q : LibraryQuery) (request : PageRequest)
    (needs : List (String × Row.Need)) (reading : Row → α) : Prop :=
  ∀ session : Session (σ × List Adapter.Sent), ∃ sent last result,
    call.outcome session = (result, last, session.state.2 ++ sent) ∧
      ∀ sent' last' result',
        PagedEnding a q request needs reading session.state.1 sent' last' result' ↔
          sent' = sent ∧ last' = last ∧ result' = result

theorem LibraryService.Pages.endsInOneWay {a : Adapter σ} {size : UInt32} {q : LibraryQuery}
    {request : PageRequest} {read : Row → Except LibraryError α}
    {call : Action LibraryError (σ × List Adapter.Sent) (Page α)}
    (hcall : Pages ⟨a.recorded, size⟩ q request read call) {needs : List (String × Row.Need)}
    {reading : Row → α} (hread : Row.ReadsBy read needs reading) :
    call.EndsInOneWay a q request needs reading := by
  intro session
  obtain ⟨sent, last, result, hending⟩ :=
    exists_pagedEnding a q request needs reading session.state.1
  have houtcome := hcall.outcome hread hending
  refine ⟨sent, last, result, houtcome, fun sent' last' result' => ⟨fun hother => ?_, ?_⟩⟩
  · have hsame := (hcall.outcome hread hother).symm.trans houtcome
    obtain ⟨rfl, hstate⟩ := Prod.mk.inj hsame
    obtain ⟨rfl, hsent⟩ := Prod.mk.inj hstate
    exact ⟨List.append_cancel_left hsent, rfl, rfl⟩
  · rintro ⟨rfl, rfl, rfl⟩
    exact hending

/-! ## Statements -/

namespace LibraryQuery

variable (q : LibraryQuery) (request : PageRequest)

/-- The number of rows is asked for with the arguments of the query. -/
theorem arguments_count : q.count.statement.arguments = q.statement.arguments := by
  show Rendered.arguments (.text _ :: (q.statement.render ++ [.text _])) = _
  rw [Rendered.arguments_text, Rendered.arguments_append]
  exact List.append_nil _

theorem sql_count : q.count.statement.sql =
    "SELECT COUNT(*) AS count FROM (" ++ q.statement.sql ++ ") counted" := by
  show String.ofList (List.flatMap _ (_ :: (q.statement.render ++ _))) = _
  rw [List.flatMap_cons, List.flatMap_append, String.ofList_append, String.ofList_append,
    ← String.append_assoc]
  rfl

/-- A window is asked for with the text of the query and two more placeholders, -/
theorem sql_page : (q.page request).statement.sql = q.statement.sql ++ " LIMIT ? OFFSET ?" := by
  show String.ofList (List.flatMap _ (q.statement.render ++ _)) = _
  rw [List.flatMap_append, String.ofList_append]
  rfl

/-- and with the arguments of the query, the size of the page and where it starts, at the last word
at the latest. -/
theorem arguments_page : (q.page request).statement.arguments =
    q.statement.arguments ++
      [.integer (.ofNat request.pageSize.toNat),
        .integer (.ofNat (min (request.page.toNat * request.pageSize.toNat) (2 ^ 32 - 1)))] := by
  rw [← request.toNat_offset]
  exact Rendered.arguments_append ..

end LibraryQuery

/-- **Paged calls give all or nothing, whatever the adapter answers.**  A call with pages that hold
no row sends nothing and is refused.  Any other asks for the number of rows, and only if it is told
one, for the window.  It ends with the first error of the adapter, or with the name of the first
column that the first unreadable row lacks; and else, and only then, with all rows that it was
given, in their order. -/
theorem paged_calls_end (a : Adapter σ) (size : UInt32) (spec : FilterSpec)
    (request : PageRequest) :
    let service : LibraryService (σ × List Adapter.Sent) := ⟨a.recorded, size⟩
    (service.queryAlbums spec request).EndsInOneWay a (.compile .albums spec) request
        Album.needs Album.reading ∧
      (service.queryTracks spec request).EndsInOneWay a (.compile .tracks spec) request
        TrackRow.needs TrackRow.reading ∧
      (service.queryHeaders spec request).EndsInOneWay a (.compile .headers spec) request
        AlbumHeader.needs AlbumHeader.reading ∧
      ∀ shape, let q := LibraryQuery.compile shape spec
        q.count.statement.sql =
          "SELECT COUNT(*) AS count FROM (" ++ q.statement.sql ++ ") counted" ∧
        q.count.statement.arguments = q.statement.arguments ∧
        (q.page request).statement.sql = q.statement.sql ++ " LIMIT ? OFFSET ?" ∧
        let start := min (request.page.toNat * request.pageSize.toNat) (2 ^ 32 - 1)
        (q.page request).statement.arguments = q.statement.arguments ++
          [.integer (.ofNat request.pageSize.toNat), .integer (.ofNat start)] := by
  intro service
  refine ⟨?_, ?_, ?_, fun shape => ⟨?_, ?_, ?_, ?_⟩⟩
  · exact LibraryService.pages_queryAlbums.endsInOneWay Album.readsBy
  · exact LibraryService.pages_queryTracks.endsInOneWay TrackRow.readsBy
  · exact LibraryService.pages_queryHeaders.endsInOneWay AlbumHeader.readsBy
  · exact LibraryQuery.sql_count _
  · exact LibraryQuery.arguments_count _
  · exact LibraryQuery.sql_page _ request
  · exact LibraryQuery.arguments_page _ request

end AudioLibrary
