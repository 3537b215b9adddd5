import AudioLibrary.Proofs.Action
import AudioLibrary.Query.Service

/-!
# Paged calls on the state of an adapter

A call changes the state of the adapter and the log.  `Action.outcome` is what a call gives and the
state that it leaves, without the log, and `Adapter.readWindow` what a paged call comes to in these
terms: the number of rows is asked for, and if it can be read, the window.
-/

namespace AudioLibrary

open AudioLibrary.Relational

namespace Action

variable {ε σ α β : Type}

/-- What an action gives and the state that it leaves. -/
def outcome (x : Action ε σ α) (session : Session σ) : Except ε α × σ :=
  ((x.run session).1, (x.run session).2.state)

theorem outcome_of_run {x : Action ε σ α} {session session' : Session σ} {result : Except ε α}
    (h : x.run session = (result, session')) : x.outcome session = (result, session'.state) := by
  rw [outcome, h]

theorem outcome_inSpan (name : String) (x : Action ε σ α) (session : Session σ) :
    (inSpan name x).outcome session = x.outcome { session with span := some name } := rfl

theorem outcome_bind_error {x : Action ε σ α} {f : α → Action ε σ β} {session : Session σ} {e : ε}
    {state : σ} (h : x.outcome session = (.error e, state)) :
    (x >>= f).outcome session = (.error e, state) := by
  obtain ⟨hresult, rfl⟩ := Prod.mk.inj h
  rw [outcome, run_bind_error (Prod.ext hresult rfl)]

/-- An action goes on in a session with the state that its first part leaves. -/
theorem outcome_bind_ok {x : Action ε σ α} {f : α → Action ε σ β} {session : Session σ} {a : α}
    {state : σ} (h : x.outcome session = (.ok a, state)) :
    ∃ session' : Session σ, session'.state = state ∧
      (x >>= f).outcome session = (f a).outcome session' := by
  obtain ⟨hresult, rfl⟩ := Prod.mk.inj h
  refine ⟨(x.run session).2, rfl, ?_⟩
  rw [outcome, run_bind_ok (Prod.ext hresult rfl), outcome]

/-- Reading what an action gives leaves the state alone. -/
theorem outcome_bind_except (x : Action ε σ α) (read : α → Except ε β) (session : Session σ) :
    (x >>= fun a => (read a : Action ε σ β)).outcome session =
      ((x.outcome session).1.bind read, (x.outcome session).2) := by
  rcases h : x.outcome session with ⟨e | a, state⟩
  · exact outcome_bind_error h
  · obtain ⟨session', rfl, hrun⟩ := outcome_bind_ok h
    exact hrun

theorem outcome_map (f : α → β) (x : Action ε σ α) (session : Session σ) :
    (f <$> x).outcome session = ((x.outcome session).1.map f, (x.outcome session).2) :=
  outcome_bind_except x (fun a => .ok (f a)) session

end Action

namespace LibraryQuery

/-- What a paged call sends for a window, in order. -/
def calls (q : LibraryQuery) (request : PageRequest) : List Adapter.Sent :=
  [⟨.one, q.count.statement⟩, ⟨.all, (q.page request).statement⟩]

end LibraryQuery

namespace Adapter

variable {σ α : Type}

/-- What a paged call does to the adapter. -/
def readWindow (a : Adapter σ) (q : LibraryQuery) (request : PageRequest)
    (read : Row → Except LibraryError α) (state : σ) :
    Except LibraryError (UInt64 × List α) × σ :=
  let counted := a.queryOne q.count.statement state
  match (counted.result.mapError .bridge).bind LibraryService.readCount with
  | .error e => (.error e, counted.state)
  | .ok total =>
      let listed := a.query (q.page request).statement counted.state
      (((listed.result.mapError .bridge).bind fun rows => rows.mapM read).map (total, ·),
        listed.state)

end Adapter

namespace LibraryService

variable {σ α : Type} (s : LibraryService σ) (spec : FilterSpec) (request : PageRequest)
  (session : Session σ)

/-! ## Numbers of rows and windows -/

theorem outcome_count (q : LibraryQuery) :
    let answer := s.adapter.queryOne q.count.statement session.state
    (s.count q).outcome session =
      ((answer.result.mapError .bridge).bind readCount, answer.state) :=
  Action.outcome_bind_except _ _ _

theorem outcome_fetchAll (statement : Statement) (read : Row → Except LibraryError α) :
    let answer := s.adapter.query statement session.state
    (s.fetchAll statement read).outcome session =
      ((answer.result.mapError .bridge).bind fun rows => rows.mapM read, answer.state) :=
  Action.outcome_bind_except _ _ _

/-- What a call for voice actors makes of the fields that it reads. -/
theorem outcome_voiceActors :
    let answer := s.adapter.query Listing.credits session.state
    s.voiceActors.outcome session =
      (((answer.result.mapError .bridge).bind fun rows =>
        rows.mapM fun row => row.requireText "cv").map Listing.actorNames, answer.state) := by
  intro answer
  have hlist := s.outcome_fetchAll session Listing.credits fun row => row.requireText "cv"
  dsimp only at hlist
  show (s.fetchAll Listing.credits _ >>= _).outcome session = _
  rcases hfields : (answer.result.mapError LibraryError.bridge).bind fun rows =>
    rows.mapM fun row => row.requireText "cv" with e | fields
  · rw [hfields] at hlist ⊢
    exact Action.outcome_bind_error hlist
  · rw [hfields] at hlist ⊢
    obtain ⟨listed, hstate, hrun⟩ := Action.outcome_bind_ok hlist
    rw [hrun, ← hstate]
    rfl

/-- A call for voice actors reads the fields in the rows that it is given. -/
theorem run_voiceActors_of_rows {rows : List Row}
    (hrows : (s.adapter.query Listing.credits session.state).result = .ok rows) :
    (s.voiceActors.run session).1 =
      (rows.mapM fun row : Row => row.requireText "cv").map Listing.actorNames := by
  refine (congrArg Prod.fst (s.outcome_voiceActors session)).trans ?_
  rw [hrows]
  rfl

theorem outcome_fetchWindow (q : LibraryQuery) (read : Row → Except LibraryError α)
    (h : request.pageSize ≠ 0) :
    (s.fetchWindow q request read).outcome session =
      s.adapter.readWindow q request read session.state := by
  have hsize : checkPageSize request.pageSize = .ok () := if_neg h
  have hcount := s.outcome_count session q
  unfold fetchWindow Adapter.readWindow
  rw [hsize]
  show (s.count q >>= _).outcome session = _
  dsimp only at hcount ⊢
  split
  · next e he =>
      rw [he] at hcount
      exact Action.outcome_bind_error hcount
  · next total htotal =>
      rw [htotal] at hcount
      obtain ⟨counted, hstate, hrun⟩ := Action.outcome_bind_ok hcount
      rw [hrun, ← hstate]
      have hlist := s.outcome_fetchAll counted (q.page request).statement read
      dsimp only at hlist
      rcases hitems : ((s.adapter.query (q.page request).statement counted.state).result.mapError
        LibraryError.bridge).bind fun rows => rows.mapM read with e | items
      · rw [hitems] at hlist
        exact Action.outcome_bind_error hlist
      · rw [hitems] at hlist
        obtain ⟨listed, hstate, hrun⟩ := Action.outcome_bind_ok hlist
        rw [hrun, ← hstate]
        rfl

/-! ## The filtered calls -/

/-- Compiling a filter within a span changes no state. -/
theorem outcome_compiling (name : String) (shape : Shape) (next : LibraryQuery → Action _ σ α) :
    ∃ session' : Session σ, session'.state = session.state ∧
      (Action.inSpan name (LibraryQuery.compiling shape spec >>= next)).outcome session =
        (next (.compile shape spec)).outcome session' := by
  rw [Action.outcome_inSpan]
  exact Action.outcome_bind_ok rfl

theorem outcome_trackWindow (h : request.pageSize ≠ 0) :
    (s.trackWindow spec request).outcome session =
      s.adapter.readWindow (.compile .tracks spec) request TrackRow.ofRow session.state := by
  obtain ⟨session', hstate, hrun⟩ := outcome_compiling spec session "query_tracks" .tracks
    fun q => s.fetchWindow q request TrackRow.ofRow
  rw [trackWindow, hrun, s.outcome_fetchWindow request session' _ _ h, hstate]

theorem outcome_queryTracks (h : request.pageSize ≠ 0) :
    let read := s.adapter.readWindow (.compile .tracks spec) request TrackRow.ofRow session.state
    (s.queryTracks spec request).outcome session = (read.1.map (pageOf request), read.2) := by
  rw [queryTracks, Action.outcome_map, s.outcome_trackWindow spec request session h]

theorem outcome_queryAlbums (h : request.pageSize ≠ 0) :
    let read := s.adapter.readWindow (.compile .albums spec) request Album.ofRow session.state
    (s.queryAlbums spec request).outcome session = (read.1.map (pageOf request), read.2) := by
  obtain ⟨session', hstate, hrun⟩ := outcome_compiling spec session "query_albums" .albums
    fun q => pageOf request <$> s.fetchWindow q request Album.ofRow
  rw [queryAlbums, hrun, Action.outcome_map, s.outcome_fetchWindow request session' _ _ h, hstate]

theorem outcome_queryHeaders (h : request.pageSize ≠ 0) :
    let read :=
      s.adapter.readWindow (.compile .headers spec) request AlbumHeader.ofRow session.state
    (s.queryHeaders spec request).outcome session = (read.1.map (pageOf request), read.2) := by
  obtain ⟨session', hstate, hrun⟩ := outcome_compiling spec session "query_track_album_headers"
    .headers fun q => pageOf request <$> s.fetchWindow q request AlbumHeader.ofRow
  rw [queryHeaders, hrun, Action.outcome_map, s.outcome_fetchWindow request session' _ _ h, hstate]

end LibraryService

end AudioLibrary
