import AudioLibrary.Proofs.Query.Streaming

/-!
# What a store replies

A call sees the state of an adapter through its answers alone.  So a function of the state that two
adapters respect, `Adapter.Carries`, is respected by every call, `FilteredCall.perform_mapState`:
what is done over one adapter is what is done over the other, state by state.

The replies that a call gets are kept by `Adapter.transcribed`.  Two functions of its states are
respected.  One forgets the replies, so that keeping them changes nothing, `perform_transcribed`.
The other adds replies in front, so that a call keeps the earlier ones, `Action.Extends`.
-/

namespace AudioLibrary

open AudioLibrary.Relational

variable {σ τ α β ε : Type}

/-! ## Functions of the state -/

/-- The session over another state. -/
def Session.mapState (f : σ → τ) (s : Session σ) : Session τ :=
  { state := f s.state, log := s.log, span := s.span }

namespace Action

/-- Whether two actions do the same, up to a function of the state. -/
def Carries (f : σ → τ) (x : Action ε σ α) (y : Action ε τ α) : Prop :=
  ∀ s, y.run (s.mapState f) = ((x.run s).1, (x.run s).2.mapState f)

variable {f : σ → τ}

theorem carries_except (f : σ → τ) (result : Except ε α) :
    Carries f (result : Action ε σ α) (result : Action ε τ α) := fun _ => rfl

theorem carries_emit (f : σ → τ) (event : LogEvent) :
    Carries f (emit event : Action ε σ Unit) (emit event) := fun _ => rfl

theorem carries_compiling (f : σ → τ) (shape : Shape) (spec : FilterSpec) :
    Carries f (LibraryQuery.compiling shape spec) (LibraryQuery.compiling shape spec) :=
  fun _ => rfl

theorem Carries.bind {x : Action ε σ α} {y : Action ε τ α} {g : α → Action ε σ β}
    {h : α → Action ε τ β} (hx : Carries f x y) (hg : ∀ a, Carries f (g a) (h a)) :
    Carries f (x >>= g) (y >>= h) := by
  intro s
  have hy := hx s
  rcases hrun : x.run s with ⟨e | a, s'⟩ <;> rw [hrun] at hy
  · rw [run_bind_error hrun, run_bind_error hy]
  · rw [run_bind_ok hrun, run_bind_ok hy]
    exact hg a s'

theorem Carries.map (g : α → β) {x : Action ε σ α} {y : Action ε τ α} (hx : Carries f x y) :
    Carries f (g <$> x) (g <$> y) :=
  hx.bind fun a => carries_except f (.ok (g a))

theorem Carries.inSpan (name : String) {x : Action ε σ α} {y : Action ε τ α}
    (hx : Carries f x y) : Carries f (inSpan name x) (inSpan name y) := by
  intro s
  have hy := hx { s with span := some name }
  exact congrArg (fun r : Except ε α × Session τ => (r.1, { r.2 with span := s.span })) hy

theorem carries_answer {answer : σ → Answer σ α} {other : τ → Answer τ α}
    (h : ∀ state, other (f state) = (answer state).mapState f) :
    Carries f (Answer.toAction answer) (Answer.toAction other) :=
  fun s => congrArg (fun r : Answer τ α => ((r.result.mapError .bridge : Except LibraryError α),
    ({ state := r.state, log := s.log ++ r.events.map (·.within s.span), span := s.span } :
      Session τ))) (h s.state)

end Action

namespace Adapter

/-- Whether the answers of two adapters are the same, up to a function of the state. -/
structure Carries (f : σ → τ) (a : Adapter σ) (b : Adapter τ) : Prop where
  query : ∀ statement state, b.query statement (f state) = (a.query statement state).mapState f
  queryOne : ∀ statement state,
    b.queryOne statement (f state) = (a.queryOne statement state).mapState f
  queryOptional : ∀ statement state,
    b.queryOptional statement (f state) = (a.queryOptional statement state).mapState f

end Adapter

/-! ## Calls on two adapters -/

namespace LibraryService

/-- What a paged call does with the number of rows that it has read. -/
def listed (s : LibraryService σ) (q : LibraryQuery) (request : PageRequest)
    (read : Row → Except LibraryError α) (total : UInt64) :
    Action LibraryError σ (UInt64 × List α) := do
  let items ← s.fetchAll (q.page request).statement read
  Action.emit (fetchedEvent q.shape total items.length)
  return (total, items)

theorem fetchWindow_eq (s : LibraryService σ) (q : LibraryQuery) (request : PageRequest)
    (read : Row → Except LibraryError α) :
    s.fetchWindow q request read =
      ((checkPageSize request.pageSize : Action LibraryError σ Unit) >>=
        fun _ => s.count q >>= s.listed q request read) := rfl

/-- What a call for the tracks of an album does when the album has been looked for. -/
def tracksOfFound (s : LibraryService σ) (spec : FilterSpec) (id : AlbumId) (found : Option Row) :
    Action LibraryError σ (List TrackRow) :=
  if found.isNone then
    ((.error (.notFound "Album" id.display) : Except LibraryError (List TrackRow)) :
      Action LibraryError σ (List TrackRow))
  else LibraryQuery.compiling (.albumTracks id) spec >>= fun q =>
    s.fetchAll q.statement TrackRow.ofRow

theorem albumTracks_eq (s : LibraryService σ) (spec : FilterSpec) (id : AlbumId) :
    s.albumTracks spec id = Action.inSpan "album_tracks"
      (Answer.toAction (s.adapter.queryOptional (Listing.albumExists id)) >>=
        s.tracksOfFound spec id) := by
  unfold albumTracks
  congr 2

variable {f : σ → τ} {a : Adapter σ} {b : Adapter τ} (h : a.Carries f b) (size : UInt32)

include h

theorem carries_count (q : LibraryQuery) :
    Action.Carries f (count ⟨a, size⟩ q) (count ⟨b, size⟩ q) :=
  (Action.carries_answer (h.queryOne _)).bind fun row => Action.carries_except f (readCount row)

theorem carries_fetchAll (statement : Statement) (read : Row → Except LibraryError α) :
    Action.Carries f (fetchAll ⟨a, size⟩ statement read) (fetchAll ⟨b, size⟩ statement read) :=
  (Action.carries_answer (h.query _)).bind fun rows => Action.carries_except f (rows.mapM read)

theorem carries_listed (q : LibraryQuery) (request : PageRequest)
    (read : Row → Except LibraryError α) (total : UInt64) :
    Action.Carries f (listed ⟨a, size⟩ q request read total)
      (listed ⟨b, size⟩ q request read total) :=
  (carries_fetchAll h size _ read).bind fun items =>
    (Action.carries_emit f _).bind fun _ => Action.carries_except f (.ok (total, items))

theorem carries_fetchWindow (q : LibraryQuery) (request : PageRequest)
    (read : Row → Except LibraryError α) :
    Action.Carries f (fetchWindow ⟨a, size⟩ q request read)
      (fetchWindow ⟨b, size⟩ q request read) := by
  rw [fetchWindow_eq, fetchWindow_eq]
  exact (Action.carries_except f _).bind fun _ =>
    (carries_count h size q).bind (carries_listed h size q request read)

theorem carries_trackWindow (spec : FilterSpec) (request : PageRequest) :
    Action.Carries f (trackWindow ⟨a, size⟩ spec request) (trackWindow ⟨b, size⟩ spec request) :=
  Action.Carries.inSpan _ ((Action.carries_compiling f _ spec).bind fun q =>
    carries_fetchWindow h size q request _)

theorem carries_queryAlbums (spec : FilterSpec) (request : PageRequest) :
    Action.Carries f (queryAlbums ⟨a, size⟩ spec request) (queryAlbums ⟨b, size⟩ spec request) :=
  Action.Carries.inSpan _ ((Action.carries_compiling f _ spec).bind fun q =>
    (carries_fetchWindow h size q request _).map (pageOf request))

theorem carries_queryTracks (spec : FilterSpec) (request : PageRequest) :
    Action.Carries f (queryTracks ⟨a, size⟩ spec request) (queryTracks ⟨b, size⟩ spec request) :=
  (carries_trackWindow h size spec request).map (pageOf request)

theorem carries_queryHeaders (spec : FilterSpec) (request : PageRequest) :
    Action.Carries f (queryHeaders ⟨a, size⟩ spec request)
      (queryHeaders ⟨b, size⟩ spec request) :=
  Action.Carries.inSpan _ ((Action.carries_compiling f _ spec).bind fun q =>
    (carries_fetchWindow h size q request _).map (pageOf request))

theorem carries_tracksOfFound (spec : FilterSpec) (id : AlbumId) (found : Option Row) :
    Action.Carries f (tracksOfFound ⟨a, size⟩ spec id found)
      (tracksOfFound ⟨b, size⟩ spec id found) := by
  unfold tracksOfFound
  split
  · exact Action.carries_except f _
  · exact (Action.carries_compiling f _ spec).bind fun q => carries_fetchAll h size _ _

theorem carries_albumTracks (spec : FilterSpec) (id : AlbumId) :
    Action.Carries f (albumTracks ⟨a, size⟩ spec id) (albumTracks ⟨b, size⟩ spec id) := by
  rw [albumTracks_eq, albumTracks_eq]
  exact Action.Carries.inSpan _
    ((Action.carries_answer (h.queryOptional _)).bind (carries_tracksOfFound h size spec id))

end LibraryService

/-! ## Streams on two adapters -/

namespace TrackStream

section Collect

variable {service : LibraryService σ} {limit : Option Nat} {stream rest : TrackStream}
  {session session' : Session σ}

/-- What has become of a window. -/
def afterWindow (stream : TrackStream) (request : PageRequest) :
    Except LibraryError (UInt64 × List TrackRow) → Step
  | .ok window => .fetched (stream.afterPage (LibraryService.pageOf request window))
  | .error e => .failed e

theorem step_of_empty (service : LibraryService σ) (session : Session σ) {request : PageRequest}
    (hbuffer : stream.buffer = []) (hnext : stream.next = some request) :
    let read := (service.trackWindow stream.spec request).run session
    stream.step service session = (stream.afterWindow request read.1, read.2) := by
  unfold step
  rw [hbuffer, hnext]
  dsimp only
  rcases (service.trackWindow stream.spec request).run session with ⟨e | window, session'⟩ <;> rfl

theorem collect_zero (service : LibraryService σ) (stream : TrackStream) (session : Session σ) :
    stream.collect service (some 0) session = (([], .taken), session) := by
  rw [collect, if_pos rfl]

theorem collect_of_row (hlimit : limit ≠ some 0) {track : TrackRow}
    (hstep : stream.step service session = (.row track rest, session')) :
    stream.collect service limit session =
      ((track :: (rest.collect service (limit.map (· - 1)) session').1.1,
        (rest.collect service (limit.map (· - 1)) session').1.2),
        (rest.collect service (limit.map (· - 1)) session').2) := by
  rw [collect, if_neg hlimit]
  split <;> cases hstep.symm.trans ‹_›
  rfl

theorem collect_of_fetched (hlimit : limit ≠ some 0)
    (hstep : stream.step service session = (.fetched rest, session')) :
    stream.collect service limit session = rest.collect service limit session' := by
  rw [collect, if_neg hlimit]
  split <;> cases hstep.symm.trans ‹_›
  rfl

theorem collect_of_done (hlimit : limit ≠ some 0)
    (hstep : stream.step service session = (.done, session')) :
    stream.collect service limit session = (([], .done), session') := by
  rw [collect, if_neg hlimit]
  split <;> cases hstep.symm.trans ‹_›
  rfl

theorem collect_of_failed (hlimit : limit ≠ some 0) {e : LibraryError}
    (hstep : stream.step service session = (.failed e, session')) :
    stream.collect service limit session = (([], .failed e), session') := by
  rw [collect, if_neg hlimit]
  split <;> cases hstep.symm.trans ‹_›
  rfl

end Collect

variable {f : σ → τ} {a : Adapter σ} {b : Adapter τ} (h : a.Carries f b) (size : UInt32)

include h

theorem step_mapState {stream : TrackStream} {session session' : Session σ} {did : Step}
    (hstep : stream.step ⟨a, size⟩ session = (did, session')) :
    stream.step ⟨b, size⟩ (session.mapState f) = (did, session'.mapState f) := by
  unfold step at hstep ⊢
  split at hstep
  · cases hstep
    rfl
  · cases hstep
    rfl
  · next request _ _ =>
      have hwindow := LibraryService.carries_trackWindow h size stream.spec request session
      split at hstep <;> next hrun =>
        cases hstep
        rw [hrun] at hwindow
        rw [hwindow]

theorem collect_mapState (limit : Option Nat) (stream : TrackStream) (session : Session σ) :
    stream.collect ⟨b, size⟩ limit (session.mapState f) =
      ((stream.collect ⟨a, size⟩ limit session).1,
        (stream.collect ⟨a, size⟩ limit session).2.mapState f) := by
  fun_induction collect ⟨a, size⟩ limit stream session with
  | case1 stream session => exact collect_zero _ _ _
  | case2 limit stream session hlimit track rest session' hstep _ tracks ending last hrest ih =>
      rw [collect_of_row hlimit (step_mapState h size hstep), ih, hrest]
  | case3 limit stream session hlimit rest session' hstep _ ih =>
      rw [collect_of_fetched hlimit (step_mapState h size hstep), ih]
  | case4 limit stream session hlimit session' hstep =>
      exact collect_of_done hlimit (step_mapState h size hstep)
  | case5 limit stream session hlimit e session' hstep =>
      exact collect_of_failed hlimit (step_mapState h size hstep)

end TrackStream

/-! ## Filtered calls -/

/-- A call with a filter. -/
inductive FilteredCall where
  | albums (request : PageRequest)
  | tracks (request : PageRequest)
  | headers (request : PageRequest)
  | albumTracks (id : AlbumId)
  /-- A stream of tracks, from which at most `limit` rows are taken if there is a limit. -/
  | stream (limit : Option Nat)
deriving DecidableEq, Repr

namespace FilteredCall

/-- The session after a call. -/
def perform (call : FilteredCall) (service : LibraryService σ) (spec : FilterSpec)
    (session : Session σ) : Session σ :=
  match call with
  | albums request => ((service.queryAlbums spec request).run session).2
  | tracks request => ((service.queryTracks spec request).run session).2
  | headers request => ((service.queryHeaders spec request).run session).2
  | albumTracks id => ((service.albumTracks spec id).run session).2
  | stream limit =>
      match service.streamTracks spec with
      | .ok start => (start.collect service limit session).2
      | .error _ => session

/-- A call does over one adapter what it does over another that answers the same. -/
theorem perform_mapState {f : σ → τ} {a : Adapter σ} {b : Adapter τ} (h : a.Carries f b)
    (size : UInt32) (call : FilteredCall) (spec : FilterSpec) (session : Session σ) :
    call.perform ⟨b, size⟩ spec (session.mapState f) =
      (call.perform ⟨a, size⟩ spec session).mapState f := by
  cases call with
  | albums request =>
      exact congrArg Prod.snd (LibraryService.carries_queryAlbums h size spec request session)
  | tracks request =>
      exact congrArg Prod.snd (LibraryService.carries_queryTracks h size spec request session)
  | headers request =>
      exact congrArg Prod.snd (LibraryService.carries_queryHeaders h size spec request session)
  | albumTracks id =>
      exact congrArg Prod.snd (LibraryService.carries_albumTracks h size spec id session)
  | stream limit =>
      have hstart : LibraryService.streamTracks ⟨b, size⟩ spec =
          LibraryService.streamTracks ⟨a, size⟩ spec := rfl
      unfold perform
      dsimp only
      rw [hstart]
      split
      · exact congrArg Prod.snd (TrackStream.collect_mapState h size limit _ session)
      · rfl

end FilteredCall

/-! ## Keeping the replies -/

/-- What an adapter says to a statement. -/
inductive Reply where
  | all (rows : Except BridgeError (List Row))
  | one (row : Except BridgeError Row)
  | optional (row? : Except BridgeError (Option Row))

namespace Adapter

/-- An answer that also keeps the reply, after the earlier ones. -/
def transcribing (reply : Except BridgeError α → Reply) (answer : σ → Answer σ α)
    (state : σ × List Reply) : Answer (σ × List Reply) α :=
  (answer state.1).mapState (·, state.2 ++ [reply (answer state.1).result])

/-- The adapter that also keeps what it replied, oldest first. -/
def transcribed (a : Adapter σ) : Adapter (σ × List Reply) where
  query statement := transcribing .all (a.query statement)
  queryOne statement := transcribing .one (a.queryOne statement)
  queryOptional statement := transcribing .optional (a.queryOptional statement)

theorem carries_transcribed (a : Adapter σ) : a.transcribed.Carries Prod.fst a :=
  ⟨fun _ _ => rfl, fun _ _ => rfl, fun _ _ => rfl⟩

/-- Earlier replies do not count. -/
theorem carries_append (a : Adapter σ) (earlier : List Reply) :
    a.transcribed.Carries (Prod.map id (earlier ++ ·)) a.transcribed := by
  have hanswer : ∀ {α : Type} (reply : Except BridgeError α → Reply) (answer : σ → Answer σ α)
      (state : σ × List Reply), transcribing reply answer (Prod.map id (earlier ++ ·) state) =
        (transcribing reply answer state).mapState (Prod.map id (earlier ++ ·)) := by
    intro α reply answer state
    simp [transcribing, Answer.mapState]
  exact ⟨fun _ => hanswer _ _, fun _ => hanswer _ _, fun _ => hanswer _ _⟩

end Adapter

/-- The replies that a session has kept stay where earlier ones do not count. -/
theorem Session.prefix_of_mapState (run : Session (σ × List Reply) → Session (σ × List Reply))
    (h : ∀ earlier s, run (s.mapState (Prod.map id (earlier ++ ·))) =
      (run s).mapState (Prod.map id (earlier ++ ·))) (s : Session (σ × List Reply)) :
    s.state.2 <+: (run s).state.2 := by
  have hsplit : s = ({ s with state := (s.state.1, []) } : Session (σ × List Reply)).mapState
      (Prod.map id (s.state.2 ++ ·)) := by
    unfold mapState
    simp
  have hrun := h s.state.2 { s with state := (s.state.1, []) }
  rw [← hsplit] at hrun
  rw [hrun]
  exact List.prefix_append _ _

namespace Action

/-- Whether an action keeps the replies that there are, and adds its own. -/
def Extends (x : Action ε (σ × List Reply) α) : Prop := ∀ s, s.state.2 <+: (x.run s).2.state.2

theorem extends_of_carries {x : Action ε (σ × List Reply) α}
    (h : ∀ earlier : List Reply, Carries (Prod.map id (earlier ++ ·)) x x) : x.Extends :=
  Session.prefix_of_mapState (fun s => (x.run s).2) fun earlier s =>
    congrArg Prod.snd (h earlier s)

theorem extends_except (result : Except ε α) :
    Extends (result : Action ε (σ × List Reply) α) :=
  extends_of_carries fun _ => carries_except _ result

/-- An event before a result. -/
theorem extends_emit (event : LogEvent) (result : Except ε α) :
    Extends (emit event >>= fun _ => (result : Action ε (σ × List Reply) α)) :=
  extends_of_carries fun _ => (carries_emit _ event).bind fun _ => carries_except _ result

end Action

/-! ### Parts of a call keep the replies -/

namespace LibraryService

variable (a : Adapter σ) (size : UInt32) (request : PageRequest)

theorem extends_fetchAll (statement : Statement) (read : Row → Except LibraryError α) :
    (fetchAll ⟨a.transcribed, size⟩ statement read).Extends :=
  Action.extends_of_carries fun earlier =>
    carries_fetchAll (a.carries_append earlier) size statement read

theorem extends_listed (q : LibraryQuery) (read : Row → Except LibraryError α) (total : UInt64) :
    (listed ⟨a.transcribed, size⟩ q request read total).Extends :=
  Action.extends_of_carries fun earlier =>
    carries_listed (a.carries_append earlier) size q request read total

theorem extends_counted (q : LibraryQuery) (read : Row → Except LibraryError α) :
    (count ⟨a.transcribed, size⟩ q >>= listed ⟨a.transcribed, size⟩ q request read).Extends :=
  Action.extends_of_carries fun earlier =>
    (carries_count (a.carries_append earlier) size q).bind
      (carries_listed (a.carries_append earlier) size q request read)

theorem extends_fetchWindow (q : LibraryQuery) (read : Row → Except LibraryError α) :
    (fetchWindow ⟨a.transcribed, size⟩ q request read).Extends :=
  Action.extends_of_carries fun earlier =>
    carries_fetchWindow (a.carries_append earlier) size q request read

theorem extends_page (q : LibraryQuery) (read : Row → Except LibraryError α) :
    Action.Extends (pageOf request <$> fetchWindow ⟨a.transcribed, size⟩ q request read) :=
  Action.extends_of_carries fun earlier =>
    (carries_fetchWindow (a.carries_append earlier) size q request read).map (pageOf request)

theorem extends_tracksOfFound (spec : FilterSpec) (id : AlbumId) (found : Option Row) :
    (tracksOfFound ⟨a.transcribed, size⟩ spec id found).Extends :=
  Action.extends_of_carries fun earlier =>
    carries_tracksOfFound (a.carries_append earlier) size spec id found

end LibraryService

/-- Taking rows from a stream keeps the replies. -/
theorem TrackStream.prefix_collect (a : Adapter σ) (size : UInt32) (limit : Option Nat)
    (stream : TrackStream) (s : Session (σ × List Reply)) :
    s.state.2 <+: (stream.collect ⟨a.transcribed, size⟩ limit s).2.state.2 :=
  Session.prefix_of_mapState (fun s => (stream.collect ⟨a.transcribed, size⟩ limit s).2)
    (fun earlier s =>
      congrArg Prod.snd (collect_mapState (a.carries_append earlier) size limit stream s)) s

namespace FilteredCall

/-- The replies that a call gets. -/
def replies (call : FilteredCall) (service : LibraryService σ) (spec : FilterSpec)
    (session : Session σ) : List Reply :=
  (call.perform ⟨service.adapter.transcribed, service.pageSize⟩ spec
    (session.mapState (·, []))).state.2

/-- Keeping the replies changes nothing else. -/
theorem perform_transcribed (call : FilteredCall) (a : Adapter σ) (size : UInt32)
    (spec : FilterSpec) (session : Session σ) :
    (call.perform ⟨a.transcribed, size⟩ spec (session.mapState (·, []))).mapState Prod.fst =
      call.perform ⟨a, size⟩ spec session :=
  (perform_mapState a.carries_transcribed size call spec _).symm

end FilteredCall

end AudioLibrary
