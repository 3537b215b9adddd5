import AudioLibrary.Proofs.Query.Paged
import AudioLibrary.Query.Stream
import Mathlib.Data.List.Forall2

/-!
# Runs of a stream

A run of a stream is the list of what happens in it: a page is read, a row is handed out, a page
cannot be read, or the end is reached.  Whoever takes the rows may stop at any point, so a run may
pause after each event; `Runs` are all of these.  Nothing is assumed of the store, which may answer
in a new way every time.  What it answers is told by the events, one after the other: `Told` says
that a page shows the rows that the store gives for it there and then, with the number that it
counts.

One step of a stream keeps `Ready`: the page that is asked for next has the size of all pages and a
number below the last word.  Facts on runs are proved from this by induction on the run.  The order
of events, `Orderly`, needs no more, since a page announces the next one only below its own number
of pages, which is a word.
-/

namespace AudioLibrary

open AudioLibrary.Relational

/-- A stream begins before its first page. -/
theorem LibraryService.streamTracks_eq_ok {σ : Type} (service : LibraryService σ)
    (spec : FilterSpec) (hsize : service.pageSize ≠ 0) :
    service.streamTracks spec = .ok { spec, next := some (.first service.pageSize) } := by
  have hcheck : checkPageSize service.pageSize = .ok () := if_neg hsize
  show (checkPageSize service.pageSize >>= fun _ => _) = _
  rw [hcheck]
  rfl

namespace TrackStream

/-! ## Events -/

/-- What happens in a stream. -/
inductive Event where
  | page (p : Page TrackRow)
  | row (track : TrackRow)
  | failed (request : PageRequest) (e : LibraryError)
  | done

namespace Event

/-- The page that the store is asked for. -/
def request? : Event → Option PageRequest
  | page p => some ⟨p.page, p.pageSize⟩
  | failed request _ => some request
  | row _ | done => none

/-- The rows that are read. -/
def read : Event → List TrackRow
  | page p => p.items
  | _ => []

/-- The row that is handed out, if one is. -/
def handed : Event → List TrackRow
  | row track => [track]
  | _ => []

/-- The error that is handed out, if one is. -/
def error? : Event → Option LibraryError
  | failed _ e => some e
  | _ => none

/-- Whether nothing may follow. -/
def isLast : Event → Bool
  | failed .. | done => true
  | _ => false

/-- What the store is sent: for a page both statements, for one that cannot be read the first or
both. -/
def Sends (spec : FilterSpec) : Event → List Adapter.Sent → Prop
  | page p, sent => sent = (LibraryQuery.compile .tracks spec).calls ⟨p.page, p.pageSize⟩
  | failed request _, sent =>
      sent ≠ [] ∧ sent <+: (LibraryQuery.compile .tracks spec).calls request
  | _, sent => sent = []

/-- What an event says of the store: what it is like before and after, and what it is sent between.
A page or an error is what a paged call comes to; nothing else concerns the store. -/
inductive Tells {σ : Type} (a : Adapter σ) (spec : FilterSpec) :
    Event → σ → List Adapter.Sent → σ → Prop where
  | page {p state sent last}
      (hending : PagedEnding a (.compile .tracks spec) ⟨p.page, p.pageSize⟩ TrackRow.needs
        TrackRow.reading state sent last (.ok p)) :
      Tells a spec (.page p) state sent last
  | failed {request e state sent last}
      (hending : PagedEnding a (.compile .tracks spec) request TrackRow.needs TrackRow.reading state
        sent last (.error e)) :
      Tells a spec (.failed request e) state sent last
  | row (track state) : Tells a spec (.row track) state [] state
  | done (state) : Tells a spec .done state [] state

end Event

/-- What events say of the store, one after the other, with what it is sent for each. -/
inductive Told {σ : Type} (a : Adapter σ) (spec : FilterSpec) :
    List Event → σ → List (List Adapter.Sent) → σ → Prop where
  | nil (state) : Told a spec [] state [] state
  | cons {event events state middle last sent more} (hfirst : Event.Tells a spec event state sent
      middle) (hrest : Told a spec events middle more last) :
      Told a spec (event :: events) state (sent :: more) last

/-- What the store is sent, as long as pages hold a row. -/
theorem Told.sends {σ : Type} {a : Adapter σ} {spec : FilterSpec} {events : List Event}
    {sent : List (List Adapter.Sent)} {state last : σ} (h : Told a spec events state sent last)
    (hsize : ∀ event ∈ events, ∀ request, event.request? = some request → request.pageSize ≠ 0) :
    List.Forall₂ (Event.Sends spec) events sent := by
  induction h with
  | nil => exact .nil
  | cons hfirst hrest ih =>
      rw [List.forall_mem_cons] at hsize
      refine .cons ?_ (ih hsize.2)
      cases hfirst with
      | page hending => exact hending.sent_of_ok
      | failed hending => exact hending.sent_of_error (hsize.1 _ rfl)
      | row | done => rfl

/-! ## Runs -/

/-- The runs of a stream in a session: what happens, where the stream stands then, `none` if it has
ended, and the session that is left. -/
inductive Runs {σ : Type} (service : LibraryService σ) :
    TrackStream → Session σ → List Event → Option TrackStream → Session σ → Prop where
  | pause (stream session) : Runs service stream session [] (some stream) session
  | row {stream session track tail events stop last} (hbuffer : stream.buffer = track :: tail)
      (hrest : Runs service { stream with buffer := tail } session events stop last) :
      Runs service stream session (.row track :: events) stop last
  | page {stream session request window session' events stop last} (hbuffer : stream.buffer = [])
      (hnext : stream.next = some request)
      (hread : (service.trackWindow stream.spec request).run session = (.ok window, session'))
      (hrest : Runs service (stream.afterPage (LibraryService.pageOf request window)) session'
        events stop last) :
      Runs service stream session (.page (LibraryService.pageOf request window) :: events) stop last
  | failed {stream session request e session'} (hbuffer : stream.buffer = [])
      (hnext : stream.next = some request)
      (hread : (service.trackWindow stream.spec request).run session = (.error e, session')) :
      Runs service stream session [.failed request e] none session'
  | done {stream session} (hbuffer : stream.buffer = []) (hnext : stream.next = none) :
      Runs service stream session [.done] none session

variable {σ : Type} {service : LibraryService σ} {stream rest : TrackStream}
  {session session' last : Session σ} {events : List Event} {stop : Option TrackStream}

/-! ## Steps -/

/-- A row is handed out from the buffer, with no word to the store. -/
theorem of_step_row {track : TrackRow}
    (h : stream.step service session = (.row track rest, session')) :
    ∃ tail, stream.buffer = track :: tail ∧ rest = { stream with buffer := tail } ∧
      session' = session := by
  unfold step at h
  split at h
  · next tail hbuffer =>
      cases h
      exact ⟨tail, hbuffer, rfl, rfl⟩
  · cases h
  · split at h <;> cases h

/-- A page is read when the buffer is empty. -/
theorem of_step_fetched (h : stream.step service session = (.fetched rest, session')) :
    ∃ request window, stream.buffer = [] ∧ stream.next = some request ∧
      (service.trackWindow stream.spec request).run session = (.ok window, session') ∧
      rest = stream.afterPage (LibraryService.pageOf request window) := by
  unfold step at h
  split at h
  · cases h
  · cases h
  · next request hbuffer hnext =>
      split at h
      · cases h
      · next window _ hread =>
          cases h
          exact ⟨request, window, hbuffer, hnext, hread, rfl⟩

theorem of_step_failed {e : LibraryError}
    (h : stream.step service session = (.failed e, session')) :
    ∃ request, stream.buffer = [] ∧ stream.next = some request ∧
      (service.trackWindow stream.spec request).run session = (.error e, session') := by
  unfold step at h
  split at h
  · cases h
  · cases h
  · next request hbuffer hnext =>
      split at h
      · next hread =>
          cases h
          exact ⟨request, hbuffer, hnext, hread⟩
      · cases h

theorem of_step_done (h : stream.step service session = (.done, session')) :
    stream.buffer = [] ∧ stream.next = none ∧ session' = session := by
  unfold step at h
  split at h
  · cases h
  · next hbuffer hnext =>
      cases h
      exact ⟨hbuffer, hnext, rfl⟩
  · split at h <;> cases h

/-! ## Collecting is a run -/

/-- What an ending says of the run. -/
def Ending.Fits (limit : Option Nat) (events : List Event) (stop : Option TrackStream) :
    Ending → Prop
  | done => stop = none ∧ [.done] <:+ events
  | taken => stop.isSome ∧ limit = some (events.flatMap Event.handed).length
  | failed e => stop = none ∧ ∃ request, [.failed request e] <:+ events

theorem Ending.Fits.row {ending : Ending} {limit : Option Nat} (hlimit : limit ≠ some 0)
    (track : TrackRow) (h : ending.Fits (limit.map (· - 1)) events stop) :
    ending.Fits limit (.row track :: events) stop := by
  cases ending with
  | done => exact ⟨h.1, h.2.trans (List.suffix_cons _ _)⟩
  | failed e =>
      obtain ⟨hstop, request, hsuffix⟩ := h
      exact ⟨hstop, request, hsuffix.trans (List.suffix_cons _ _)⟩
  | taken =>
      obtain ⟨hstop, htaken⟩ := h
      refine ⟨hstop, ?_⟩
      obtain ⟨n, rfl, hn⟩ := Option.map_eq_some_iff.1 htaken
      have hpos : n ≠ 0 := fun h0 => hlimit (by rw [h0])
      show some n = some ((events.flatMap Event.handed).length + 1)
      rw [← hn]
      congr 1
      omega

theorem Ending.Fits.page {ending : Ending} {limit : Option Nat} (p : Page TrackRow)
    (h : ending.Fits limit events stop) : ending.Fits limit (.page p :: events) stop := by
  cases ending with
  | done => exact ⟨h.1, h.2.trans (List.suffix_cons _ _)⟩
  | failed e =>
      obtain ⟨hstop, request, hsuffix⟩ := h
      exact ⟨hstop, request, hsuffix.trans (List.suffix_cons _ _)⟩
  | taken => exact h

/-- Collecting rows is a run, with the rows that are handed out and the ending that fits. -/
theorem exists_runs_collect (service : LibraryService σ) (limit : Option Nat)
    (stream : TrackStream) (session : Session σ) :
    ∃ events stop,
      Runs service stream session events stop (collect service limit stream session).2 ∧
      events.flatMap Event.handed = (collect service limit stream session).1.1 ∧
      (collect service limit stream session).1.2.Fits limit events stop := by
  -- the cases are those of `collect`: enough rows, a row, a page, the end, an error
  fun_induction collect service limit stream session with
  | case1 stream session => exact ⟨[], some stream, .pause stream session, rfl, rfl, rfl⟩
  | case2 limit stream session hlimit track rest session' hstep _ tracks ending last hrest ih =>
      obtain ⟨events, stop, hruns, hrows, hfits⟩ := ih
      obtain ⟨tail, hbuffer, rfl, rfl⟩ := of_step_row hstep
      rw [hrest] at hruns hrows hfits
      refine ⟨.row track :: events, stop, .row hbuffer hruns, ?_, hfits.row hlimit track⟩
      exact congrArg (track :: ·) hrows
  | case3 limit stream session hlimit rest session' hstep _ ih =>
      obtain ⟨events, stop, hruns, hrows, hfits⟩ := ih
      obtain ⟨request, window, hbuffer, hnext, hread, rfl⟩ := of_step_fetched hstep
      exact ⟨_, stop, .page hbuffer hnext hread hruns, hrows, hfits.page _⟩
  | case4 limit stream session hlimit session' hstep =>
      obtain ⟨hbuffer, hnext, rfl⟩ := of_step_done hstep
      exact ⟨[.done], none, .done hbuffer hnext, rfl, rfl, List.suffix_rfl⟩
  | case5 limit stream session hlimit e session' hstep =>
      obtain ⟨request, hbuffer, hnext, hread⟩ := of_step_failed hstep
      exact ⟨[.failed request e], none, .failed hbuffer hnext hread, rfl, rfl, request,
        List.suffix_rfl⟩

/-- Every run can be carried to an end. -/
theorem exists_runs_none (service : LibraryService σ) (stream : TrackStream)
    (session : Session σ) : ∃ events last, Runs service stream session events none last := by
  obtain ⟨events, stop, hruns, -, hfits⟩ := exists_runs_collect service none stream session
  have hstop : stop = none := by
    rcases hending : (collect service none stream session).1.2 with _ | _ | e <;>
      rw [hending] at hfits
    · exact hfits.1
    · exact absurd hfits.2 (by simp)
    · exact hfits.1
  subst hstop
  exact ⟨events, _, hruns⟩

/-! ## What a step keeps -/

/-- The page that is asked for next has the size of all pages, and its number is not the last
word. -/
def Ready (size : UInt32) (stream : TrackStream) : Prop :=
  ∀ request, stream.next = some request →
    request.pageSize = size ∧ request.page.toNat + 1 < 2 ^ 32

variable {size : UInt32}

theorem ready_of_next_eq_first (h : stream.next = some (.first size)) : stream.Ready size := by
  intro request hrequest
  obtain rfl := Option.some.inj (h.symm.trans hrequest)
  exact ⟨rfl, (by decide : (0 : UInt32).toNat + 1 < 2 ^ 32)⟩

/-- A page that announces another one has a number below its number of pages. -/
theorem Ready.afterPage {request : PageRequest} {window : UInt64 × List TrackRow}
    (h : stream.Ready size) (hnext : stream.next = some request) :
    (stream.afterPage (LibraryService.pageOf request window)).Ready size := by
  intro other hother
  have hnumber := Page.page_of_nextRequest hother
  obtain ⟨hannounced, rfl⟩ := Page.nextRequest_eq_some_iff.1 hother
  have hword : (LibraryService.pageOf request window).totalPages.toNat < 2 ^ 32 :=
    UInt32.toNat_lt _
  refine ⟨(h request hnext).1, ?_⟩
  omega

/-! ## Facts on runs -/

namespace Runs

theorem eq_of_singleton_eq {α : Type} {a b : α} {before after : List α}
    (h : [a] = before ++ b :: after) : before = [] ∧ a = b ∧ after = [] := by
  rcases List.singleton_eq_append_iff.1 h with ⟨rfl, h⟩ | ⟨-, h⟩
  · obtain ⟨rfl, rfl⟩ := List.cons.inj h
    exact ⟨rfl, rfl, rfl⟩
  · exact absurd h (List.cons_ne_nil _ _)

/-- The pages that are asked for have consecutive numbers, all below the last word. -/
theorem requests (h : Runs service stream session events stop last) (hready : stream.Ready size) :
    (stream.next = none → events.filterMap Event.request? = []) ∧
      ∀ request, stream.next = some request → ∃ n, request.page.toNat + n ≤ 2 ^ 32 - 1 ∧
        events.filterMap Event.request? =
          (List.range' request.page.toNat n).map fun k => ⟨.ofNat k, size⟩ := by
  induction h with
  | pause =>
      refine ⟨fun _ => rfl, fun request hnext => ⟨0, ?_, rfl⟩⟩
      have := (hready request hnext).2
      omega
  | row hbuffer hrest ih => exact ih hready
  | @page stream session request window session' events stop last hbuffer hnext hread hrest ih =>
      obtain ⟨hend, hmore⟩ := ih (hready.afterPage hnext)
      refine ⟨fun hnone => absurd (hnext.symm.trans hnone) (by simp), fun other hother => ?_⟩
      obtain rfl : request = other := Option.some.inj (hnext.symm.trans hother)
      obtain ⟨hsize, hbelow⟩ := hready request hnext
      have hself : (⟨.ofNat request.page.toNat, size⟩ : PageRequest) = request := by
        rw [← hsize, UInt32.ofNat_toNat]
      -- the request of the page comes before those from the page on that it announces
      rcases hannounced : (LibraryService.pageOf request window).nextRequest with _ | following
      · refine ⟨1, by omega, ?_⟩
        show request :: events.filterMap Event.request? = [⟨.ofNat request.page.toNat, size⟩]
        rw [hend hannounced, hself]
      · obtain ⟨n, hbound, hrequests⟩ := hmore following hannounced
        have hnumber : following.page.toNat = request.page.toNat + 1 :=
          Page.page_of_nextRequest hannounced
        refine ⟨n + 1, by omega, ?_⟩
        show request :: events.filterMap Event.request? = _
        rw [hrequests, hnumber, List.range'_succ, List.map_cons, hself]
  | @failed stream session request e session' hbuffer hnext hread =>
      refine ⟨fun hnone => absurd (hnext.symm.trans hnone) (by simp), fun other hother => ?_⟩
      obtain rfl : request = other := Option.some.inj (hnext.symm.trans hother)
      obtain ⟨hsize, hbelow⟩ := hready request hnext
      refine ⟨1, by omega, ?_⟩
      show [request] = [⟨.ofNat request.page.toNat, size⟩]
      rw [← hsize, UInt32.ofNat_toNat]
  | done hbuffer hnext =>
      exact ⟨fun _ => rfl, fun request hsome => absurd (hnext.symm.trans hsome) (by simp)⟩

/-- Rows are handed out as they are read; what is not yet handed out is in the buffer. -/
theorem handed_append (h : Runs service stream session events stop last) :
    events.flatMap Event.handed ++ stop.elim [] buffer =
      stream.buffer ++ events.flatMap Event.read := by
  induction h with
  | pause stream session => exact (List.append_nil _).symm
  | @row stream session track tail events stop last hbuffer hrest ih =>
      rw [hbuffer]
      exact congrArg (track :: ·) ih
  | @page stream session request window session' events stop last hbuffer hnext hread hrest ih =>
      rw [hbuffer]
      exact ih
  | failed hbuffer | done hbuffer =>
      rw [hbuffer]
      rfl

/-- Nothing is asked for, and no end reached, but at the start of the stream or after all rows of a
page, which decides what is asked for then. -/
theorem paced (h : Runs service stream session events stop last) {before after : List Event}
    {event : Event} (hevents : events = before ++ event :: after) (hevent : event.handed = []) :
    (before = stream.buffer.map .row ∧ event.request? = stream.next) ∨
      ∃ earlier p, before = earlier ++ .page p :: p.items.map .row ∧
        event.request? = p.nextRequest := by
  induction h generalizing before with
  | pause => exact absurd hevents (by simp)
  | @row stream session track tail events stop last hbuffer hrest ih =>
      cases before with
      | nil =>
          obtain ⟨rfl, -⟩ := List.cons.inj hevents
          exact absurd hevent (List.cons_ne_nil _ _)
      | cons first before =>
          obtain ⟨rfl, htail⟩ := List.cons.inj hevents
          rcases ih htail with ⟨rfl, hnext⟩ | ⟨earlier, p, rfl, hnext⟩
          · exact .inl ⟨by rw [hbuffer]; rfl, hnext⟩
          · exact .inr ⟨.row track :: earlier, p, rfl, hnext⟩
  | @page stream session request window session' events stop last hbuffer hnext hread hrest ih =>
      cases before with
      | nil =>
          obtain ⟨rfl, -⟩ := List.cons.inj hevents
          exact .inl ⟨by rw [hbuffer]; rfl, hnext.symm⟩
      | cons first before =>
          obtain ⟨rfl, htail⟩ := List.cons.inj hevents
          rcases ih htail with ⟨rfl, hnext⟩ | ⟨earlier, p, rfl, hnext⟩
          · exact .inr ⟨[], _, rfl, hnext⟩
          · exact .inr ⟨_ :: earlier, p, rfl, hnext⟩
  | failed hbuffer hnext hread =>
      obtain ⟨rfl, rfl, -⟩ := eq_of_singleton_eq hevents
      exact .inl ⟨by rw [hbuffer]; rfl, hnext.symm⟩
  | done hbuffer hnext =>
      obtain ⟨rfl, rfl, -⟩ := eq_of_singleton_eq hevents
      exact .inl ⟨by rw [hbuffer]; rfl, hnext.symm⟩

/-- Every page that is read answers a request, with its number of pages. -/
theorem totalPages_eq (h : Runs service stream session events stop last) {p : Page TrackRow}
    (hp : .page p ∈ events) : p.totalPages = Page.pageCount p.total p.pageSize := by
  induction h with
  | pause => exact absurd hp List.not_mem_nil
  | row hbuffer hrest ih =>
      rcases List.mem_cons.1 hp with hrow | hp
      · cases hrow
      · exact ih hp
  | page hbuffer hnext hread hrest ih =>
      rcases List.mem_cons.1 hp with hpage | hp
      · cases hpage
        rfl
      · exact ih hp
  | failed | done => cases List.mem_singleton.1 hp

/-- Nothing follows an error or the end. -/
theorem eq_nil_of_isLast (h : Runs service stream session events stop last)
    {before after : List Event} {event : Event} (hevents : events = before ++ event :: after)
    (hlast : event.isLast) : after = [] := by
  induction h generalizing before with
  | pause => exact absurd hevents (by simp)
  | row hbuffer hrest ih | page hbuffer hnext hread hrest ih =>
      cases before with
      | nil =>
          obtain ⟨rfl, -⟩ := List.cons.inj hevents
          exact absurd hlast Bool.false_ne_true
      | cons first before => exact ih (List.cons.inj hevents).2
  | failed | done => exact (eq_of_singleton_eq hevents).2.2

theorem length_errors_le_one (h : Runs service stream session events stop last) :
    (events.filterMap Event.error?).length ≤ 1 := by
  induction h with
  | pause | done => exact Nat.zero_le 1
  | row hbuffer hrest ih | page hbuffer hnext hread hrest ih => exact ih
  | failed => exact Nat.le_refl 1

/-- A run ends with an error or with the end, and with nothing else. -/
theorem isLast_of_none (h : Runs service stream session events none last) :
    ∃ before event, events = before ++ [event] ∧ event.isLast = true := by
  generalize hstop : (none : Option TrackStream) = stop at h
  induction h with
  | pause => cases hstop
  | row hbuffer hrest ih | page hbuffer hnext hread hrest ih =>
      obtain ⟨before, event, rfl, hlast⟩ := ih hstop
      exact ⟨_ :: before, event, rfl, hlast⟩
  | failed | done => exact ⟨[], _, rfl, rfl⟩

/-- Two runs of a stream in one session agree as far as both go. -/
theorem isPrefix {all : List Event} {finish : Session σ}
    (h : Runs service stream session events stop last)
    (hall : Runs service stream session all none finish) : events <+: all := by
  induction h generalizing all with
  | pause => exact List.nil_prefix
  | row hbuffer hrest ih =>
      cases hall with
      | row hbuffer' hall =>
          obtain ⟨rfl, rfl⟩ := List.cons.inj (hbuffer.symm.trans hbuffer')
          exact (List.prefix_cons_inj _).2 (ih hall)
      | page hbuffer' | failed hbuffer' | done hbuffer' => simp [hbuffer] at hbuffer'
  | page hbuffer hnext hread hrest ih =>
      cases hall with
      | page hbuffer' hnext' hread' hall =>
          obtain rfl := Option.some.inj (hnext.symm.trans hnext')
          obtain ⟨hwindow, rfl⟩ := Prod.mk.inj (hread.symm.trans hread')
          obtain rfl := Except.ok.inj hwindow
          exact (List.prefix_cons_inj _).2 (ih hall)
      | failed hbuffer' hnext' hread' =>
          obtain rfl := Option.some.inj (hnext.symm.trans hnext')
          cases hread.symm.trans hread'
      | row | done => simp_all
  | failed hbuffer hnext hread =>
      cases hall with
      | failed hbuffer' hnext' hread' =>
          obtain rfl := Option.some.inj (hnext.symm.trans hnext')
          obtain ⟨he, -⟩ := Prod.mk.inj (hread.symm.trans hread')
          obtain rfl := Except.error.inj he
          exact List.prefix_rfl
      | page hbuffer' hnext' hread' =>
          obtain rfl := Option.some.inj (hnext.symm.trans hnext')
          cases hread.symm.trans hread'
      | row | done => simp_all
  | done hbuffer hnext =>
      cases hall with
      | done => exact List.prefix_rfl
      | row | page | failed => simp_all

/-- The events of a run tell what the store has answered, and what it has been sent. -/
theorem told {a : Adapter σ} {stream : TrackStream}
    {session last : Session (σ × List Adapter.Sent)}
    (h : Runs ⟨a.recorded, size⟩ stream session events stop last) :
    ∃ sent, Told a stream.spec events session.state.1 sent last.state.1 ∧
      last.state.2 = session.state.2 ++ sent.flatten := by
  induction h with
  | pause stream session => exact ⟨[], .nil _, (List.append_nil _).symm⟩
  | row hbuffer hrest ih =>
      obtain ⟨sent, htold, hlast⟩ := ih
      exact ⟨[] :: sent, .cons (.row _ _) htold, hlast⟩
  | page hbuffer hnext hread hrest ih =>
      obtain ⟨sent, htold, hlast⟩ := ih
      obtain ⟨first, hfirst, hending⟩ := LibraryService.exists_sent_trackWindow hread
      refine ⟨first :: sent, .cons (.page hending) htold, ?_⟩
      rw [hlast, hfirst, List.append_assoc, List.flatten_cons]
  | failed hbuffer hnext hread =>
      obtain ⟨first, hfirst, hending⟩ := LibraryService.exists_sent_trackWindow hread
      refine ⟨[first], .cons (.failed hending) (.nil _), ?_⟩
      rw [hfirst, List.flatten_singleton]
  | done => exact ⟨[[]], .cons (.done _) (.nil _), (List.append_nil _).symm⟩

end Runs

/-! ## The order of a run -/

/-- What every run of a stream with pages of a given size keeps to. -/
structure Orderly (size : UInt32) (events : List Event) (stop : Option TrackStream) : Prop where
  /-- The pages 0, 1, 2 and so on are asked for, each once. -/
  consecutive : ∃ n ≤ 4294967295,
    events.filterMap Event.request? = (List.range n).map fun k => ⟨.ofNat k, size⟩
  /-- No page number is the last word, so that the next number is a word. -/
  below : ∀ event ∈ events, ∀ request, event.request? = some request →
    request.page.toNat + 1 < 2 ^ 32
  /-- What is not a row comes at the start, where it asks for the first page, or when all rows of a
  page have been handed out, where it is what the page announces: the next page or the end. -/
  paced : ∀ before event after, events = before ++ event :: after → event.handed = [] →
    (before = [] ∧ event.request? = some (.first size)) ∨
      ∃ earlier p, before = earlier ++ .page p :: p.items.map .row ∧
        event.request? = p.nextRequest
  /-- A page announces the one after it if there are more pages than up to it, -/
  announced : ∀ p, .page p ∈ events → ∀ request, p.nextRequest = some request ↔
    p.page.toNat + 1 < p.totalPages.toNat ∧ request = ⟨p.page + 1, p.pageSize⟩
  /-- and only if it counts rows beyond its own. -/
  counted : ∀ p, .page p ∈ events → ∀ request, p.nextRequest = some request →
    request.page.toNat = p.page.toNat + 1 ∧
      request.page.toNat * p.pageSize.toNat < p.total.toNat
  /-- Rows are handed out in the order in which they are read, and all of them if the run ends. -/
  handed : events.flatMap Event.handed ++ stop.elim [] buffer = events.flatMap Event.read
  ended : stop = none → ∃ before event, events = before ++ [event] ∧ event.isLast = true
  final : ∀ before event after, events = before ++ event :: after → event.isLast → after = []
  errors : (events.filterMap Event.error?).length ≤ 1

/-- Where consecutive pages are asked for, each has its number and the size of all. -/
theorem exists_number_of_request {n : Nat}
    (hrequests : events.filterMap Event.request? = (List.range n).map fun k => ⟨.ofNat k, size⟩)
    {event : Event} (hevent : event ∈ events) {request : PageRequest}
    (hrequest : event.request? = some request) : ∃ k < n, request = ⟨.ofNat k, size⟩ := by
  have hmem : request ∈ events.filterMap Event.request? :=
    List.mem_filterMap.2 ⟨event, hevent, hrequest⟩
  rw [hrequests] at hmem
  obtain ⟨k, hk, rfl⟩ := List.mem_map.1 hmem
  exact ⟨k, List.mem_range.1 hk, rfl⟩

theorem Orderly.pageSize_eq (h : Orderly size events stop) {event : Event}
    (hevent : event ∈ events) {request : PageRequest} (hrequest : event.request? = some request) :
    request.pageSize = size := by
  obtain ⟨n, -, hrequests⟩ := h.consecutive
  obtain ⟨k, -, rfl⟩ := exists_number_of_request hrequests hevent hrequest
  rfl

/-- The runs of a stream that has not begun. -/
theorem Runs.orderly (h : Runs service stream session events stop last)
    (hbuffer : stream.buffer = []) (hnext : stream.next = some (.first size)) :
    Orderly size events stop := by
  obtain ⟨n, hn, hrequests⟩ := (h.requests (ready_of_next_eq_first hnext)).2 _ hnext
  have hzero : (PageRequest.first size).page.toNat = 0 := rfl
  rw [hzero, Nat.zero_add] at hn
  rw [hzero, ← List.range_eq_range'] at hrequests
  exact
    { consecutive := ⟨n, hn, hrequests⟩
      below := by
        intro event hevent request hrequest
        obtain ⟨k, hk, rfl⟩ := exists_number_of_request hrequests hevent hrequest
        have hnumber : (UInt32.ofNat k).toNat = k :=
          UInt32.toNat_ofNat_of_lt' (show k < 2 ^ 32 by omega)
        dsimp only
        omega
      paced := by
        intro before event after hevents hevent
        rcases h.paced hevents hevent with ⟨rfl, hasked⟩ | hasked
        · exact .inl ⟨by rw [hbuffer]; rfl, hasked.trans hnext⟩
        · exact .inr hasked
      announced := fun p _ request => Page.nextRequest_eq_some_iff
      counted := by
        intro p hp request hrequest
        have hnumber := Page.page_of_nextRequest hrequest
        obtain ⟨hlt, -⟩ := Page.nextRequest_eq_some_iff.1 hrequest
        rw [h.totalPages_eq hp, ← hnumber] at hlt
        exact ⟨hnumber, Page.lt_total_of_lt_pageCount hlt⟩
      handed := by rw [h.handed_append, hbuffer, List.nil_append]
      ended := by
        rintro rfl
        exact h.isLast_of_none
      final := fun before event after hevents hlast => h.eq_nil_of_isLast hevents hlast
      errors := h.length_errors_le_one }

/-- **Whatever the store answers, a stream keeps to its order**, shows on its pages what the store
gives for them, and sends nothing but what its events show; and all its runs are beginnings of one
run that ends, of which collecting is a part. -/
theorem streamTracks_orderly (a : Adapter σ) {size : UInt32} (hsize : size ≠ 0)
    (spec : FilterSpec) :
    let service : LibraryService (σ × List Adapter.Sent) := ⟨a.recorded, size⟩
    ∃ stream, service.streamTracks spec = .ok stream ∧
      ∀ session,
        (∀ events stop last, Runs service stream session events stop last →
          Orderly size events stop ∧
            ∃ sent, Told a spec events session.state.1 sent last.state.1 ∧
              List.Forall₂ (Event.Sends spec) events sent ∧
              last.state.2 = session.state.2 ++ sent.flatten) ∧
        (∃ all finish, Runs service stream session all none finish ∧
          ∀ events stop last, Runs service stream session events stop last → events <+: all) ∧
        ∀ limit, ∃ events stop,
          Runs service stream session events stop (collect service limit stream session).2 ∧
            events.flatMap Event.handed = (collect service limit stream session).1.1 ∧
            (collect service limit stream session).1.2.Fits limit events stop := by
  intro service
  refine ⟨{ spec, next := some (.first size) }, service.streamTracks_eq_ok spec hsize,
    fun session => ⟨?_, ?_, ?_⟩⟩
  · intro events stop last h
    have horderly : Orderly size events stop := h.orderly rfl rfl
    obtain ⟨sent, htold, hlast⟩ := h.told
    refine ⟨horderly, sent, htold, htold.sends fun event hevent request hrequest => ?_, hlast⟩
    rw [horderly.pageSize_eq hevent hrequest]
    exact hsize
  · obtain ⟨all, finish, hall⟩ := exists_runs_none service _ session
    exact ⟨all, finish, hall, fun events stop last h => h.isPrefix hall⟩
  · intro limit
    exact exists_runs_collect service limit _ session

/-- A store that counts three rows and shows two of them on the first page and one on the second:
all three are handed out, and two pages are asked for. -/
theorem streamTracks_orderly_scripted :
    let row (n : Int64) : Row :=
      [("track_id", .integer n), ("album_id", .integer 1), ("track_title", .text "one"),
        ("track_path", .text "one.mp3"), ("album_title", .text "Night")]
    let counted : Except BridgeError (List Row) := .ok [[("count", .integer 3)]]
    let service : LibraryService _ := ⟨Adapter.scripted.recorded, 2⟩
    let session : Session (Adapter.Script × List Adapter.Sent) :=
      { state := ([counted, .ok [row 1, row 2], counted, .ok [row 3]], []) }
    (2 : UInt32) ≠ 0 ∧ ∃ stream, service.streamTracks {} = .ok stream ∧
      ∃ events last, Runs service stream session events none last ∧ Orderly 2 events none ∧
        events.flatMap Event.handed = [row 1, row 2, row 3].map TrackRow.reading ∧
        events.filterMap Event.request? = [⟨0, 2⟩, ⟨1, 2⟩] ∧
        ∃ sent, Told Adapter.scripted {} events session.state.1 sent last.state.1 := by
  intro row counted service session
  have hsize : (2 : UInt32) ≠ 0 := by decide
  obtain ⟨stream, hstream, h⟩ := streamTracks_orderly Adapter.scripted hsize {}
  obtain rfl := Except.ok.inj ((service.streamTracks_eq_ok {} hsize).symm.trans hstream)
  -- the rows that are read stand in the buffer until they are handed out
  have hrun : ∃ events last, Runs service { spec := {}, next := some (.first 2) } session events
      none last ∧ events.flatMap Event.handed = [row 1, row 2, row 3].map TrackRow.reading ∧
        events.filterMap Event.request? = [⟨0, 2⟩, ⟨1, 2⟩] :=
    ⟨_, _, .page rfl rfl rfl (.row rfl (.row rfl
      (.page rfl (show _ = some (⟨1, 2⟩ : PageRequest) by decide) rfl
        (.row rfl (.done rfl (show _ = none by decide)))))), rfl, rfl⟩
  obtain ⟨events, last, hruns, hhanded, hrequests⟩ := hrun
  obtain ⟨horderly, sent, htold, -⟩ := (h session).1 events none last hruns
  exact ⟨hsize, _, hstream, events, last, hruns, horderly, hhanded, hrequests, sent, htold⟩

end TrackStream

end AudioLibrary
