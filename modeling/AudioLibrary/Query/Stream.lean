import AudioLibrary.Query.Service

/-!
# Streams of tracks

A stream reads all matching tracks page by page; a page is asked for when the rows of the page
before it have been taken.  `step` does one thing: it hands out a row, reads a page, or ends.
`collect` takes steps.

It always ends: a page announces a next one only with a greater page number, and page numbers are
words.
-/

namespace AudioLibrary

/-- Where a stream stands. -/
structure TrackStream where
  spec : FilterSpec
  /-- Rows that were read and not yet taken. -/
  buffer : List TrackRow := []
  /-- The page to read when the buffer is empty. -/
  next : Option PageRequest

/-- What one step of a stream does. -/
inductive TrackStream.Step where
  | row (track : TrackRow) (rest : TrackStream)
  | fetched (rest : TrackStream)
  | done
  | failed (e : LibraryError)

/-- How a run of a stream ends. -/
inductive TrackStream.Ending where
  /-- No row is left. -/
  | done
  /-- As many rows as were asked for have been taken. -/
  | taken
  | failed (e : LibraryError)
deriving DecidableEq, Repr

namespace LibraryService

variable {σ : Type}

/-- A stream of the tracks that match, before its first page. -/
def streamTracks (s : LibraryService σ) (spec : FilterSpec) : Except LibraryError TrackStream := do
  checkPageSize s.pageSize
  return { spec, next := some s.firstPage }

end LibraryService

namespace TrackStream

variable {σ : Type}

/-- The stream after a page. -/
def afterPage (stream : TrackStream) (page : Page TrackRow) : TrackStream :=
  { stream with buffer := page.items, next := page.nextRequest }

/-- One step. -/
def step (service : LibraryService σ) (stream : TrackStream) (session : Session σ) :
    Step × Session σ :=
  match stream.buffer, stream.next with
  | track :: rest, _ => (.row track { stream with buffer := rest }, session)
  | [], none => (.done, session)
  | [], some request =>
      match (service.trackWindow stream.spec request).run session with
      | (.error e, session) => (.failed e, session)
      | (.ok window, session) =>
          (.fetched (stream.afterPage (LibraryService.pageOf request window)), session)

/-- How many page numbers are left for the stream. -/
def pagesLeft (stream : TrackStream) : Nat :=
  match stream.next with
  | none => 0
  | some request => 2 ^ 32 - request.page.toNat

theorem pagesLeft_afterPage_lt {stream : TrackStream} {request : PageRequest}
    {window : UInt64 × List TrackRow} (h : stream.next = some request) :
    (stream.afterPage (LibraryService.pageOf request window)).pagesLeft < stream.pagesLeft := by
  have hlt : request.page.toNat < 2 ^ 32 := request.page.toNat_lt
  simp only [pagesLeft, afterPage, h]
  split
  · omega
  · next r hr =>
      have : r.page.toNat = request.page.toNat + 1 := Page.page_of_nextRequest hr
      omega

/-- A row leaves the pages as they are and the buffer shorter. -/
theorem step_row {service : LibraryService σ} {stream rest : TrackStream} {track : TrackRow}
    {session session' : Session σ}
    (h : stream.step service session = (.row track rest, session')) :
    rest.pagesLeft = stream.pagesLeft ∧ rest.buffer.length < stream.buffer.length := by
  unfold step at h
  split at h
  · next hb =>
      cases h
      exact ⟨rfl, by simp [hb]⟩
  · cases h
  · split at h <;> cases h

/-- A page uses up a page number. -/
theorem step_fetched {service : LibraryService σ} {stream rest : TrackStream}
    {session session' : Session σ}
    (h : stream.step service session = (.fetched rest, session')) :
    rest.pagesLeft < stream.pagesLeft := by
  unfold step at h
  split at h
  · cases h
  · cases h
  · next hn =>
      split at h
      · cases h
      · cases h
        exact pagesLeft_afterPage_lt hn

/-- The rows of a stream, at most `limit` of them if there is a limit, and how the run ends. -/
def collect (service : LibraryService σ) (limit : Option Nat) (stream : TrackStream)
    (session : Session σ) : (List TrackRow × Ending) × Session σ :=
  -- a stream is not asked once enough rows have been taken, not even whether it has ended
  if limit = some 0 then (([], .taken), session)
  else
    match h : stream.step service session with
    | (.row track rest, session') =>
        have := step_row h
        let ((tracks, ending), session'') :=
          collect service (limit.map (· - 1)) rest session'
        ((track :: tracks, ending), session'')
    | (.fetched rest, session') =>
        have := step_fetched h
        collect service limit rest session'
    | (.done, session') => (([], .done), session')
    | (.failed e, session') => (([], .failed e), session')
termination_by (stream.pagesLeft, stream.buffer.length)
decreasing_by
  · obtain ⟨hp, hb⟩ := this
    rw [hp]
    exact Prod.Lex.right _ hb
  · exact Prod.Lex.left _ _ this

end TrackStream

end AudioLibrary
