import AudioLibrary.Proofs.Query.Outlines
import AudioLibrary.Proofs.Query.Replies

/-!
# What the log tells

The log of a call tells how its statements are built and how many rows there are, and no value that
was asked for or found.  Two runs of a call, with filters of one skeleton, are compared here.  If
the stores reply alike, in the sense of `Reply.outline`, the logs are equal:
`FilteredCall.logs_eq_of_outlines_eq`.

Runs are compared up to a plan, the outlines that both are known to get.  Sessions of the two runs
are alike if the logs and the outlines so far are equal, and `Action.Alike` says that two actions
keep sessions alike as long as what they get is planned.  Each part of a call keeps to this, and the
parts are put together by `Action.Alike.bind`.  Its second part must keep the replies that the first
part got, since only then are these planned too.
-/

namespace AudioLibrary

open AudioLibrary.Relational

variable {σ τ α β γ δ ε : Type} {readable : Row → Bool} {plan : List Outline}

/-! ## Sessions that are alike -/

namespace Session

/-- The outlines of the replies so far. -/
def outlines (readable : Row → Bool) (s : Session (σ × List Reply)) : List Outline :=
  s.state.2.map (Reply.outline readable)

theorem outlines_prefix {s s' : Session (σ × List Reply)} (readable : Row → Bool)
    (h : s.state.2 <+: s'.state.2) : s.outlines readable <+: s'.outlines readable :=
  h.map _

/-- Whether two sessions look the same to someone who sees the log and the outlines. -/
structure Alike (readable : Row → Bool) (s : Session (σ × List Reply))
    (t : Session (τ × List Reply)) : Prop where
  log : s.log = t.log
  span : s.span = t.span
  outlines : s.outlines readable = t.outlines readable

end Session

/-- Two lists that grow by one member along a plan grow by the same. -/
theorem eq_of_concat_prefix {as : List α} {a b : α} {plan : List α} (ha : as ++ [a] <+: plan)
    (hb : as ++ [b] <+: plan) : a = b := by
  have hprefix : as ++ [a] <+: as ++ [b] := List.prefix_of_prefix_length_le ha hb (by simp)
  have hwhole := hprefix.eq_of_length (by simp)
  exact List.singleton_inj.1 (List.append_cancel_left hwhole)

/-! ## Actions that are alike -/

namespace Action

/-- Whether two actions leave sessions alike, and results that agree, where what they get is
planned. -/
def Alike (readable : Row → Bool) (plan : List Outline) (R : α → β → Prop)
    (x : Action ε (σ × List Reply) α) (y : Action ε (τ × List Reply) β) : Prop :=
  ∀ s t, s.Alike readable t → (x.run s).2.outlines readable <+: plan →
    (y.run t).2.outlines readable <+: plan →
    (x.run s).2.Alike readable (y.run t).2 ∧ Agree R (x.run s).1 (y.run t).1

variable {R : α → β → Prop} {Q : γ → δ → Prop}

theorem alike_except {r : Except ε α} {r' : Except ε β} (h : Agree R r r') :
    Alike readable plan R (r : Action ε (σ × List Reply) α)
      (r' : Action ε (τ × List Reply) β) :=
  fun _ _ hst _ _ => ⟨hst, h⟩

theorem alike_emit (event : LogEvent) :
    Alike readable plan (fun _ _ => True) (emit event : Action ε (σ × List Reply) Unit)
      (emit event : Action ε (τ × List Reply) Unit) := by
  intro s t hst _ _
  refine ⟨⟨?_, hst.span, hst.outlines⟩, .ok trivial⟩
  show s.log ++ [event.within s.span] = t.log ++ [event.within t.span]
  rw [hst.log, hst.span]

/-- What the first part has got is kept by the second. -/
theorem prefix_bind {x : Action ε (σ × List Reply) α} {g : α → Action ε (σ × List Reply) γ}
    (hg : ∀ a, (g a).Extends) (s : Session (σ × List Reply)) :
    (x.run s).2.outlines readable <+: ((x >>= g).run s).2.outlines readable := by
  rcases hrun : x.run s with ⟨e | a, s'⟩
  · rw [run_bind_error hrun]
  · rw [run_bind_ok hrun]
    exact Session.outlines_prefix readable (hg a s')

theorem Alike.bind {x : Action ε (σ × List Reply) α} {y : Action ε (τ × List Reply) β}
    {g : α → Action ε (σ × List Reply) γ} {h : β → Action ε (τ × List Reply) δ}
    (hxy : Alike readable plan R x y) (hg : ∀ a, (g a).Extends) (hh : ∀ b, (h b).Extends)
    (hgh : ∀ a b, R a b → Alike readable plan Q (g a) (h b)) :
    Alike readable plan Q (x >>= g) (y >>= h) := by
  intro s t hst hs ht
  obtain ⟨hafter, hagree⟩ :=
    hxy s t hst ((prefix_bind hg s).trans hs) ((prefix_bind hh t).trans ht)
  rcases hx : x.run s with ⟨e | a, s'⟩ <;> rcases hy : y.run t with ⟨e' | b, t'⟩ <;>
    rw [hx, hy] at hagree hafter
  · rw [run_bind_error hx, run_bind_error hy]
    exact ⟨hafter, .error e e'⟩
  · cases hagree
  · cases hagree
  · cases hagree with
    | ok hab =>
        rw [run_bind_ok hx] at hs ⊢
        rw [run_bind_ok hy] at ht ⊢
        exact hgh a b hab s' t' hafter hs ht

theorem Alike.map {x : Action ε (σ × List Reply) α} {y : Action ε (τ × List Reply) β}
    (f : α → γ) (g : β → δ) (hxy : Alike readable plan R x y)
    (hfg : ∀ a b, R a b → Q (f a) (g b)) : Alike readable plan Q (f <$> x) (g <$> y) :=
  hxy.bind (fun a => extends_except (.ok (f a))) (fun b => extends_except (.ok (g b)))
    fun a b hab => alike_except (.ok (hfg a b hab))

theorem Alike.inSpan (name : String) {x : Action ε (σ × List Reply) α}
    {y : Action ε (τ × List Reply) β} (hxy : Alike readable plan R x y) :
    Alike readable plan R (inSpan name x) (inSpan name y) := by
  intro s t hst hs ht
  obtain ⟨hafter, hagree⟩ := hxy { s with span := some name } { t with span := some name }
    ⟨hst.log, rfl, hst.outlines⟩ hs ht
  exact ⟨⟨hafter.log, hst.span, hafter.outlines⟩, hagree⟩

/-- Two adapters are asked for the same. -/
theorem alike_answer {reply : Except BridgeError α → Reply} {answer : σ → Answer σ α}
    {other : τ → Answer τ α} {R : α → α → Prop}
    (hagree : ∀ {r r'}, (reply r).outline readable = (reply r').outline readable → Agree R r r')
    (hevents : ∀ {x y}, (reply (answer x).result).outline readable =
      (reply (other y).result).outline readable → (answer x).events = (other y).events) :
    Alike readable plan R (Answer.toAction (Adapter.transcribing reply answer))
      (Answer.toAction (Adapter.transcribing reply other)) := by
  intro s t hst hs ht
  have hkept : ∀ {σ : Type} (answer : σ → Answer σ α) (s : Session (σ × List Reply)),
      ((Answer.toAction (Adapter.transcribing reply answer)).run s).2.outlines readable =
        s.outlines readable ++ [(reply (answer s.state.1).result).outline readable] :=
    fun answer s => List.map_append
  rw [hkept] at hs ht
  rw [← hst.outlines] at ht
  have houtline := eq_of_concat_prefix hs ht
  refine ⟨⟨?_, hst.span, ?_⟩, ?_⟩
  · show s.log ++ (answer s.state.1).events.map (·.within s.span) =
      t.log ++ (other t.state.1).events.map (·.within t.span)
    rw [hst.log, hst.span, hevents houtline]
  · rw [hkept, hkept, hst.outlines, houtline]
  · exact (hagree houtline).mapError LibraryError.bridge

end Action

/-! ## Calls that are alike -/

/-- Filters of one skeleton are compiled alike, into similar queries. -/
theorem LibraryQuery.alike_compiling {spec other : FilterSpec}
    (hskeleton : spec.skeleton = other.skeleton) (shape : Shape) :
    Action.Alike readable plan LibraryQuery.Similar
      (compiling shape spec : Action _ (σ × List Reply) _)
      (compiling shape other : Action _ (τ × List Reply) _) := by
  unfold compiling
  rw [compiledEvent_eq hskeleton shape]
  exact (Action.alike_emit _).bind (fun _ => Action.extends_except (.ok _))
    (fun _ => Action.extends_except (.ok _))
    fun _ _ _ => Action.alike_except (.ok (similar_compile hskeleton shape))

namespace LibraryService

/-- Whether two windows have the same total and as many rows. -/
def AsMany (window : UInt64 × List α) (window' : UInt64 × List β) : Prop :=
  window.1 = window'.1 ∧ window.2.length = window'.2.length

variable {a : Adapter σ} {b : Adapter τ} (hlogs : a.LogsAlike readable b) (size : UInt32)

include hlogs

theorem alike_count {q r : LibraryQuery} (h : q.Similar r) :
    Action.Alike readable plan (fun total total' => total = total')
      (count ⟨a.transcribed, size⟩ q) (count ⟨b.transcribed, size⟩ r) :=
  (Action.alike_answer Reply.agree_of_outline_one_eq (hlogs.queryOne (h.2 [.count]))).bind
    (fun row => Action.extends_except (readCount row))
    (fun row => Action.extends_except (readCount row))
    fun _ _ hcount => Action.alike_except (agree_of_toOption_eq hcount)

theorem alike_fetchAll {statement other : Statement} (h : statement.Similar other)
    {read : Row → Except LibraryError α} (hread : readable = fun row => (read row).isOk) :
    Action.Alike readable plan (fun items items' => items.length = items'.length)
      (fetchAll ⟨a.transcribed, size⟩ statement read)
      (fetchAll ⟨b.transcribed, size⟩ other read) := by
  refine (Action.alike_answer Reply.agree_of_outline_all_eq (hlogs.query h)).bind
    (fun rows => Action.extends_except (rows.mapM read))
    (fun rows => Action.extends_except (rows.mapM read))
    fun rows rows' ⟨hlength, hall⟩ => Action.alike_except ?_
  rw [hread] at hall
  exact agree_mapM hlength hall

theorem alike_listed {q r : LibraryQuery} (h : q.Similar r) (request : PageRequest)
    {read : Row → Except LibraryError α} (hread : readable = fun row => (read row).isOk)
    (total : UInt64) :
    Action.Alike readable plan AsMany
      (listed ⟨a.transcribed, size⟩ q request read total)
      (listed ⟨b.transcribed, size⟩ r request read total) := by
  refine (alike_fetchAll hlogs size (h.2 [.window request.limit request.offset]) hread).bind
    (fun items => Action.extends_emit _ (.ok (total, items)))
    (fun items => Action.extends_emit _ (.ok (total, items))) fun items items' hlength => ?_
  rw [h.1, hlength]
  exact (Action.alike_emit _).bind
    (fun _ => Action.extends_except (.ok (total, items)))
    (fun _ => Action.extends_except (.ok (total, items')))
    fun _ _ _ => Action.alike_except (.ok ⟨rfl, hlength⟩)

/-- Windows of the same request have the same total and as many rows. -/
theorem alike_fetchWindow {q r : LibraryQuery} (h : q.Similar r) (request : PageRequest)
    {read : Row → Except LibraryError α} (hread : readable = fun row => (read row).isOk) :
    Action.Alike readable plan AsMany
      (fetchWindow ⟨a.transcribed, size⟩ q request read)
      (fetchWindow ⟨b.transcribed, size⟩ r request read) := by
  rw [fetchWindow_eq, fetchWindow_eq]
  refine (Action.alike_except (agree_self (checkPageSize request.pageSize))).bind
    (fun _ => extends_counted a size request q read)
    (fun _ => extends_counted b size request r read) fun _ _ _ => ?_
  refine (alike_count hlogs size h).bind (extends_listed a size request q read)
    (extends_listed b size request r read) ?_
  rintro total _ rfl
  exact alike_listed hlogs size h request hread total

section Filters

variable {spec other : FilterSpec} (hskeleton : spec.skeleton = other.skeleton)

include hskeleton

/-- A call that compiles a filter and reads a page. -/
theorem alike_page (name : String) (shape : Shape) (request : PageRequest)
    {read : Row → Except LibraryError α} (hread : readable = fun row => (read row).isOk) :
    Action.Alike readable plan (fun _ _ => True)
      (Action.inSpan name (LibraryQuery.compiling shape spec >>= fun q =>
        pageOf request <$> fetchWindow ⟨a.transcribed, size⟩ q request read))
      (Action.inSpan name (LibraryQuery.compiling shape other >>= fun q =>
        pageOf request <$> fetchWindow ⟨b.transcribed, size⟩ q request read)) := by
  refine Action.Alike.inSpan name ((LibraryQuery.alike_compiling hskeleton shape).bind
    (fun q => extends_page a size request q read) (fun r => extends_page b size request r read)
    fun q r hsimilar => ?_)
  exact (alike_fetchWindow hlogs size hsimilar request hread).map _ _ fun _ _ _ => trivial

theorem alike_trackWindow (request : PageRequest)
    (hread : readable = fun row => (TrackRow.ofRow row).isOk) :
    Action.Alike readable plan AsMany
      (trackWindow ⟨a.transcribed, size⟩ spec request)
      (trackWindow ⟨b.transcribed, size⟩ other request) :=
  Action.Alike.inSpan _ ((LibraryQuery.alike_compiling hskeleton .tracks).bind
    (fun q => extends_fetchWindow a size request q _)
    (fun r => extends_fetchWindow b size request r _)
    fun _ _ hsimilar => alike_fetchWindow hlogs size hsimilar request hread)

theorem alike_albumTracks (id : AlbumId)
    (hread : readable = fun row => (TrackRow.ofRow row).isOk) :
    Action.Alike readable plan (fun tracks tracks' => tracks.length = tracks'.length)
      (albumTracks ⟨a.transcribed, size⟩ spec id) (albumTracks ⟨b.transcribed, size⟩ other id) := by
  rw [albumTracks_eq, albumTracks_eq]
  refine Action.Alike.inSpan _ ((Action.alike_answer Reply.agree_of_outline_optional_eq
    (hlogs.queryOptional ⟨rfl, rfl⟩)).bind (extends_tracksOfFound a size spec id)
    (extends_tracksOfFound b size other id) ?_)
  intro found found' hsame
  unfold tracksOfFound
  rw [← hsame]
  split
  · exact Action.alike_except (.error _ _)
  · exact (LibraryQuery.alike_compiling hskeleton _).bind
      (fun q => extends_fetchAll a size q.statement _)
      (fun r => extends_fetchAll b size r.statement _)
      fun q r hsimilar => alike_fetchAll hlogs size (hsimilar.2 []) hread

end Filters

end LibraryService

/-! ## Streams that are alike -/

namespace TrackStream

/-- Whether two streams are to read the same page after as many rows. -/
structure Alike (stream other : TrackStream) : Prop where
  skeleton : stream.spec.skeleton = other.spec.skeleton
  buffer : stream.buffer.length = other.buffer.length
  next : stream.next = other.next

/-- Whether two steps do the same, up to the values. -/
inductive Step.Alike : Step → Step → Prop where
  | row (track track' : TrackRow) {rest rest' : TrackStream} (h : rest.Alike rest') :
      Step.Alike (.row track rest) (.row track' rest')
  | fetched {rest rest' : TrackStream} (h : rest.Alike rest') :
      Step.Alike (.fetched rest) (.fetched rest')
  | done : Step.Alike .done .done
  | failed (e e' : LibraryError) : Step.Alike (.failed e) (.failed e')

/-- Windows with the same total and as many rows leave streams alike. -/
theorem Alike.afterWindow {stream other : TrackStream} (h : stream.Alike other)
    (request : PageRequest) {read read' : Except LibraryError (UInt64 × List TrackRow)}
    (hagree : Agree LibraryService.AsMany read read') :
    Step.Alike (stream.afterWindow request read) (other.afterWindow request read') := by
  rcases hagree with _ | ⟨htotal, hlength⟩
  · exact .failed _ _
  · refine .fetched ⟨h.skeleton, hlength, ?_⟩
    show (LibraryService.pageOf request _).nextRequest =
      (LibraryService.pageOf request _).nextRequest
    unfold LibraryService.pageOf
    rw [htotal]
    rfl

/-- What a step has got is kept when more rows are taken. -/
theorem prefix_step {a : Adapter σ} {size : UInt32} {limit : Option Nat} {stream : TrackStream}
    {s : Session (σ × List Reply)} (hlimit : limit ≠ some 0) :
    (stream.step ⟨a.transcribed, size⟩ s).2.outlines readable <+:
      (stream.collect ⟨a.transcribed, size⟩ limit s).2.outlines readable := by
  refine Session.outlines_prefix readable ?_
  rcases hstep : stream.step ⟨a.transcribed, size⟩ s with ⟨did, s'⟩
  cases did with
  | row track rest =>
      rw [collect_of_row hlimit hstep]
      exact prefix_collect a size _ rest s'
  | fetched rest =>
      rw [collect_of_fetched hlimit hstep]
      exact prefix_collect a size _ rest s'
  | done => rw [collect_of_done hlimit hstep]
  | failed e => rw [collect_of_failed hlimit hstep]

variable {a : Adapter σ} {b : Adapter τ} (hlogs : a.LogsAlike readable b) (size : UInt32)
  (hread : readable = fun row => (TrackRow.ofRow row).isOk)

include hlogs hread

/-- One step keeps streams and sessions alike. -/
theorem step_alike {stream other : TrackStream} {s : Session (σ × List Reply)}
    {t : Session (τ × List Reply)} (hstream : stream.Alike other) (hst : s.Alike readable t)
    (hs : (stream.step ⟨a.transcribed, size⟩ s).2.outlines readable <+: plan)
    (ht : (other.step ⟨b.transcribed, size⟩ t).2.outlines readable <+: plan) :
    (stream.step ⟨a.transcribed, size⟩ s).2.Alike readable
        (other.step ⟨b.transcribed, size⟩ t).2 ∧
      Step.Alike (stream.step ⟨a.transcribed, size⟩ s).1
        (other.step ⟨b.transcribed, size⟩ t).1 := by
  rcases hbuffer : stream.buffer with _ | ⟨track, tail⟩ <;>
    rcases hbuffer' : other.buffer with _ | ⟨track', tail'⟩
  case cons.cons =>
    have hlength := hstream.buffer
    rw [hbuffer, hbuffer'] at hlength
    unfold step
    rw [hbuffer, hbuffer']
    exact ⟨hst, .row track track' ⟨hstream.skeleton, Nat.succ.inj hlength, hstream.next⟩⟩
  case nil.nil =>
    rcases hnext : stream.next with _ | request
    · have hnext' := hstream.next.symm.trans hnext
      unfold step
      rw [hbuffer, hbuffer', hnext, hnext']
      exact ⟨hst, .done⟩
    · have hnext' := hstream.next.symm.trans hnext
      rw [step_of_empty _ s hbuffer hnext] at hs ⊢
      rw [step_of_empty _ t hbuffer' hnext'] at ht ⊢
      obtain ⟨hafter, hagree⟩ := LibraryService.alike_trackWindow hlogs size hstream.skeleton
        request hread s t hst hs ht
      exact ⟨hafter, hstream.afterWindow request hagree⟩
  all_goals
    have hlength := hstream.buffer
    rw [hbuffer, hbuffer'] at hlength
    cases hlength

/-- The second of two runs takes the step that the first one takes. -/
theorem exists_step_alike {limit : Option Nat} (hlimit : limit ≠ some 0)
    {stream other : TrackStream} {s s' : Session (σ × List Reply)} {t : Session (τ × List Reply)}
    {did : Step} (hstream : stream.Alike other) (hst : s.Alike readable t)
    (hstep : stream.step ⟨a.transcribed, size⟩ s = (did, s'))
    (hs : s'.outlines readable <+: plan)
    (ht : (other.collect ⟨b.transcribed, size⟩ limit t).2.outlines readable <+: plan) :
    ∃ did' t', other.step ⟨b.transcribed, size⟩ t = (did', t') ∧ s'.Alike readable t' ∧
      did.Alike did' := by
  have hs' : (stream.step ⟨a.transcribed, size⟩ s).2.outlines readable <+: plan := by
    rw [hstep]
    exact hs
  have hafter := step_alike hlogs size hread hstream hst hs' ((prefix_step hlimit).trans ht)
  rw [hstep] at hafter
  exact ⟨_, _, rfl, hafter⟩

/-- As many rows are taken from streams that are alike, with the same log. -/
theorem collect_alike {limit : Option Nat} {stream other : TrackStream}
    {s : Session (σ × List Reply)} {t : Session (τ × List Reply)} (hstream : stream.Alike other)
    (hst : s.Alike readable t)
    (hs : (stream.collect ⟨a.transcribed, size⟩ limit s).2.outlines readable <+: plan)
    (ht : (other.collect ⟨b.transcribed, size⟩ limit t).2.outlines readable <+: plan) :
    (stream.collect ⟨a.transcribed, size⟩ limit s).2.Alike readable
      (other.collect ⟨b.transcribed, size⟩ limit t).2 := by
  -- the induction is on the first run, and the second takes the same steps
  fun_induction collect ⟨a.transcribed, size⟩ limit stream s generalizing other t with
  | case1 stream s =>
      rw [collect_zero]
      exact hst
  | case2 limit stream s hlimit track rest s' hstep _ tracks ending last hrest ih =>
      have hkept := Session.outlines_prefix readable
        (prefix_collect a size (limit.map (· - 1)) rest s')
      rw [hrest] at hkept ih
      obtain ⟨_, t', hstep', hafter, hsame⟩ :=
        exists_step_alike hlogs size hread hlimit hstream hst hstep (hkept.trans hs) ht
      cases hsame with
      | row _ track' hrest' =>
          rw [collect_of_row hlimit hstep'] at ht ⊢
          exact ih hrest' hafter hs ht
  | case3 limit stream s hlimit rest s' hstep _ ih =>
      have hkept := Session.outlines_prefix readable (prefix_collect a size limit rest s')
      obtain ⟨_, t', hstep', hafter, hsame⟩ :=
        exists_step_alike hlogs size hread hlimit hstream hst hstep (hkept.trans hs) ht
      cases hsame with
      | fetched hrest' =>
          rw [collect_of_fetched hlimit hstep'] at ht ⊢
          exact ih hrest' hafter hs ht
  | case4 limit stream s hlimit s' hstep =>
      obtain ⟨_, t', hstep', hafter, hsame⟩ :=
        exists_step_alike hlogs size hread hlimit hstream hst hstep hs ht
      cases hsame
      rw [collect_of_done hlimit hstep']
      exact hafter
  | case5 limit stream s hlimit e s' hstep =>
      obtain ⟨_, t', hstep', hafter, hsame⟩ :=
        exists_step_alike hlogs size hread hlimit hstream hst hstep hs ht
      cases hsame
      rw [collect_of_failed hlimit hstep']
      exact hafter

end TrackStream

/-- A stream begins alike, before its first page. -/
theorem LibraryService.agree_streamTracks (a : Adapter σ) (b : Adapter τ) (size : UInt32)
    {spec other : FilterSpec} (hskeleton : spec.skeleton = other.skeleton) :
    Agree TrackStream.Alike (streamTracks ⟨a, size⟩ spec) (streamTracks ⟨b, size⟩ other) := by
  by_cases hsize : size = 0
  · have hrefused : ∀ {σ : Type} (a : Adapter σ) (spec : FilterSpec),
        streamTracks ⟨a, size⟩ spec =
          .error (.invalidInput "page_size" "page size must be at least 1") := by
      intro σ a spec
      rw [hsize]
      rfl
    rw [hrefused, hrefused]
    exact .error _ _
  · rw [streamTracks_eq_ok ⟨a, size⟩ spec hsize, streamTracks_eq_ok ⟨b, size⟩ other hsize]
    exact .ok ⟨hskeleton, rfl, rfl⟩

/-! ## Filtered calls -/

namespace FilteredCall

/-- Whether a row can be read in a call. -/
def reads : FilteredCall → Row → Bool
  | albums _ => fun row => (Album.ofRow row).isOk
  | headers _ => fun row => (AlbumHeader.ofRow row).isOk
  | tracks _ | albumTracks _ | stream _ => fun row => (TrackRow.ofRow row).isOk

/-- The outlines of the replies that a call gets. -/
def outlines (call : FilteredCall) (service : LibraryService σ) (spec : FilterSpec)
    (session : Session σ) : List Outline :=
  (call.replies service spec session).map (Reply.outline call.reads)

variable {a : Adapter σ} {b : Adapter τ} {spec other : FilterSpec}

/-- A call keeps sessions alike. -/
theorem perform_alike (call : FilteredCall) (hlogs : a.LogsAlike call.reads b) (size : UInt32)
    (hskeleton : spec.skeleton = other.skeleton) {s : Session (σ × List Reply)}
    {t : Session (τ × List Reply)} (hst : s.Alike call.reads t)
    (hs : (call.perform ⟨a.transcribed, size⟩ spec s).outlines call.reads <+: plan)
    (ht : (call.perform ⟨b.transcribed, size⟩ other t).outlines call.reads <+: plan) :
    (call.perform ⟨a.transcribed, size⟩ spec s).Alike call.reads
      (call.perform ⟨b.transcribed, size⟩ other t) := by
  cases call with
  | albums request =>
      exact (LibraryService.alike_page hlogs size hskeleton _ _ request rfl s t hst hs ht).1
  | tracks request =>
      have hpage : Action.Alike _ plan (fun _ _ => True)
          (LibraryService.queryTracks ⟨a.transcribed, size⟩ spec request)
          (LibraryService.queryTracks ⟨b.transcribed, size⟩ other request) :=
        (LibraryService.alike_trackWindow hlogs size hskeleton request rfl).map _ _
          fun _ _ _ => trivial
      exact (hpage s t hst hs ht).1
  | headers request =>
      exact (LibraryService.alike_page hlogs size hskeleton _ _ request rfl s t hst hs ht).1
  | albumTracks id =>
      exact (LibraryService.alike_albumTracks hlogs size hskeleton id rfl s t hst hs ht).1
  | stream limit =>
      have hstart := LibraryService.agree_streamTracks a.transcribed b.transcribed size hskeleton
      unfold perform at hs ht ⊢
      dsimp only at hs ht ⊢
      generalize LibraryService.streamTracks ⟨a.transcribed, size⟩ spec = start at hstart hs ⊢
      generalize LibraryService.streamTracks ⟨b.transcribed, size⟩ other = start' at hstart ht ⊢
      cases hstart with
      | error => exact hst
      | ok hstream => exact TrackStream.collect_alike hlogs size rfl hstream hst hs ht

/-- **The log tells how statements are built and how many rows there are, and nothing else.**  Two
runs of a call, with filters of one skeleton over stores whose replies have the same outlines, log
the same, so sinks of any level get the same entries.  The text that is searched for, the names, the
ids, what the rows hold and what the errors say do not count.  The adapters may log as well, if they
log alike, as the store does. -/
theorem logs_eq_of_outlines_eq (call : FilteredCall) (size : UInt32) {spec other : FilterSpec}
    (hskeleton : spec.skeleton = other.skeleton) :
    (∀ {σ τ : Type} (a : Adapter σ) (b : Adapter τ), a.LogsAlike call.reads b →
      ∀ (s : Session σ) (t : Session τ), s.log = t.log → s.span = t.span →
        call.outlines ⟨a, size⟩ spec s = call.outlines ⟨b, size⟩ other t →
        (call.perform ⟨a, size⟩ spec s).log = (call.perform ⟨b, size⟩ other t).log) ∧
      Database.adapter.LogsAlike call.reads Database.adapter := by
  refine ⟨fun {σ τ} a b hlogs s t hlog hspan houtlines => ?_, Database.logsAlike call.reads⟩
  rw [← perform_transcribed call a, ← perform_transcribed call b]
  have hstart : (s.mapState (·, ([] : List Reply))).Alike call.reads (t.mapState (·, [])) :=
    ⟨hlog, hspan, rfl⟩
  have hplanned : call.outlines ⟨b, size⟩ other t <+: call.outlines ⟨a, size⟩ spec s := by
    rw [houtlines]
  exact (perform_alike call hlogs size hskeleton hstart List.prefix_rfl hplanned).log

/-- Two searches that find an album each, one of them in a larger store and for a text with
apostrophes. -/
theorem logs_eq_of_outlines_eq_searches :
    let spec : FilterSpec := { textQuery := some "Foo" }
    let other : FilterSpec := { textQuery := some "' OR '" }
    let s : Session Database := { state := { store := .ofAlbums [[("circle", .text "Foo")]] } }
    let t : Session Database :=
      { state := { store := .ofAlbums [[], [("title", .text "this ' or ' that")]] } }
    let call := albums (.first 1)
    spec.skeleton = other.skeleton ∧ s.log = t.log ∧ s.span = t.span ∧
      call.outlines ⟨Database.adapter, 10⟩ spec s = [.count (some 1), .rows 1 true] ∧
      call.outlines ⟨Database.adapter, 10⟩ other t = [.count (some 1), .rows 1 true] ∧
      (call.perform ⟨Database.adapter, 10⟩ spec s).log =
        (call.perform ⟨Database.adapter, 10⟩ other t).log := by
  intro spec other s t call
  have hskeleton : spec.skeleton = other.skeleton := by decide
  have hspec : call.outlines ⟨Database.adapter, 10⟩ spec s = [.count (some 1), .rows 1 true] := by
    decide +kernel
  have hother : call.outlines ⟨Database.adapter, 10⟩ other t =
      [.count (some 1), .rows 1 true] := by decide +kernel
  obtain ⟨hlogs, hstore⟩ := logs_eq_of_outlines_eq call 10 hskeleton
  exact ⟨hskeleton, rfl, rfl, hspec, hother,
    hlogs Database.adapter Database.adapter hstore s t rfl rfl (hspec.trans hother.symm)⟩

end FilteredCall

end AudioLibrary
