import AudioLibrary.Proofs.Query.Pages
import Mathlib.Data.String.Basic

/-!
# What an open database answers

An open database answers every statement that can be read, unless a row is compared with a pattern
that is too long.  So a listing is read row by row, `outcome_fetchAll_of_open`, and calls for albums
give the pages of the rows of their query, `givesPages_albums_of_open`; where the pattern is too
long the call fails with what the engine says, `queryAlbums_of_longPattern`.
-/

namespace AudioLibrary

open AudioLibrary.Relational

/-! ## Long patterns -/

namespace Relational

theorem length_byteArrayToList_loop (bytes : ByteArray) (i : Nat) (r : List UInt8) :
    (ByteArray.toList.loop bytes i r).length = r.length + (bytes.size - i) := by
  fun_induction ByteArray.toList.loop bytes i r with
  | case1 i r h ih =>
      rw [ih, List.length_cons]
      omega
  | case2 i r h =>
      rw [List.length_reverse]
      omega

/-- A pattern is measured in bytes. -/
theorem isLongPattern_text (text : String) :
    isLongPattern (.text text) = decide (maxPatternSize < text.utf8ByteSize) := by
  show decide (maxPatternSize <
    (ByteArray.toList.loop (String.ofList text.toList).toUTF8 0 []).length) = _
  rw [String.ofList_toList, length_byteArrayToList_loop, List.length_nil, Nat.zero_add,
    Nat.sub_zero]
  rfl

theorem length_le_utf8ByteSize_ofList (text : List Char) :
    text.length ≤ (String.ofList text).utf8ByteSize := by
  rw [String.utf8ByteSize_ofList]
  induction text with
  | nil => exact Nat.zero_le _
  | cons c text ih =>
      have hc : 0 < c.utf8Size := Char.utf8Size_pos c
      rw [String.utf8Len_cons, List.length_cons]
      omega

variable {tables : Tables} {scope : Scope} {cs : List Test}

theorem mem_of_mem_trialOrder {c : Test} (h : c ∈ trialOrder cs) : c ∈ cs := by
  have horder : trialOrder cs = cs.filter Condition.picksRows ++
      ((cs.filter (not ∘ Condition.picksRows)).filter (not ∘ Condition.isCorrelated)) ++
        (cs.filter (not ∘ Condition.picksRows)).filter Condition.isCorrelated := by
    unfold trialOrder
    simp only [List.partition_eq_filter_filter]
  rw [horder, List.mem_append, List.mem_append] at h
  rcases h with (h | h) | h
  · exact (List.mem_filter.1 h).1
  · exact (List.mem_filter.1 (List.mem_filter.1 h).1).1
  · exact (List.mem_filter.1 (List.mem_filter.1 h).1).1

/-- A row that is tried by conditions without long patterns comes to none. -/
theorem meetsLongPattern_eq_false (sub : Subselect → Scope → List Value)
    (h : ∀ c ∈ cs, c.meetsLongPattern sub scope = false) :
    meetsLongPattern sub scope cs = false := by
  induction cs with
  | nil => rfl
  | cons c cs ih =>
      rw [meetsLongPattern, h c List.mem_cons_self,
        ih fun d hd => h d (List.mem_cons_of_mem c hd), Bool.and_false]
      rfl

/-- Where there is one condition, every row is tried by it. -/
theorem meetsLongPattern_trialOrder_singleton (sub : Subselect → Scope → List Value)
    (scope : Scope) (c : Test) :
    meetsLongPattern sub scope (trialOrder [c]) = c.meetsLongPattern sub scope := by
  have horder : trialOrder [c] = [c] := by
    unfold trialOrder
    cases hpicks : c.picksRows <;> cases hcorrelated : c.isCorrelated <;>
      simp [List.partition_eq_filter_filter, hpicks, hcorrelated]
  rw [horder, meetsLongPattern, meetsLongPattern, Bool.and_false, Bool.or_false]

section Alternatives

variable {ρ : Type} {sub : ρ → Scope → List Value} {scope : Scope}

theorem exists_append_cons_iff {α : Type} {P Q : α → Prop} {a : α} {as : List α} :
    (∃ before b after, a :: as = before ++ b :: after ∧ P b ∧ ∀ c ∈ before, Q c) ↔
      P a ∨ Q a ∧ ∃ before b after, as = before ++ b :: after ∧ P b ∧ ∀ c ∈ before, Q c := by
  constructor
  · rintro ⟨before, b, after, heq, hb, hbefore⟩
    cases before with
    | nil =>
        obtain ⟨rfl, rfl⟩ := List.cons.inj heq
        exact Or.inl hb
    | cons c before =>
        obtain ⟨rfl, rfl⟩ := List.cons.inj heq
        obtain ⟨ha, hbefore⟩ := List.forall_mem_cons.1 hbefore
        exact Or.inr ⟨ha, before, b, after, rfl, hb, hbefore⟩
  · rintro (ha | ⟨ha, before, b, after, rfl, hb, hbefore⟩)
    · exact ⟨[], a, as, rfl, ha, List.forall_mem_nil _⟩
    · exact ⟨a :: before, b, after, rfl, hb, List.forall_mem_cons.2 ⟨ha, hbefore⟩⟩

theorem Condition.meetsLongPattern_either_iff {c d : Condition ρ} :
    (either c d).meetsLongPattern sub scope = true ↔
      c.meetsLongPattern sub scope = true ∨
        (c.eval sub scope).holds = false ∧ d.meetsLongPattern sub scope = true := by
  simp [meetsLongPattern, Truth.holds, and_comm]

/-- Alternatives are tried in their order, up to one that holds. -/
theorem Condition.meetsLongPattern_anyOf_iff (c : Condition ρ) (cs : List (Condition ρ)) :
    (anyOf c cs).meetsLongPattern sub scope = true ↔
      ∃ before d after, c :: cs = before ++ d :: after ∧
        d.meetsLongPattern sub scope = true ∧ ∀ e ∈ before, (e.eval sub scope).holds = false := by
  show (cs.foldl either c).meetsLongPattern sub scope = true ↔ _
  induction cs generalizing c with
  | nil =>
      rw [exists_append_cons_iff]
      simp
  | cons d cs ih =>
      rw [List.foldl_cons, ih]
      simp only [exists_append_cons_iff, meetsLongPattern_either_iff, eval, Truth.holds_or,
        Bool.or_eq_false_iff]
      tauto

end Alternatives

theorem Select.meetsLongPattern_eq_false {s : Select}
    (h : ∀ c ∈ s.conditions, ∀ scope,
      c.meetsLongPattern (Subselect.values tables) scope = false) :
    s.meetsLongPattern tables = false := by
  unfold Select.meetsLongPattern
  rw [List.any_eq_false]
  intro scope _
  rw [Relational.meetsLongPattern_eq_false _ fun c hc => h c (mem_of_mem_trialOrder hc) scope]
  exact Bool.false_ne_true

end Relational

/-- A query comes to no long pattern if no predicate of its filter does. -/
theorem LibraryQuery.meetsLongPattern_eq_false {tables : Tables} {shape : Shape}
    {spec : FilterSpec} (h : ∀ p ∈ spec.predicates shape, ∀ scope,
      p.condition.meetsLongPattern (Subselect.values tables) scope = false) :
    (compile shape spec).statement.meetsLongPattern tables = false := by
  refine Select.meetsLongPattern_eq_false fun c hc scope => ?_
  obtain ⟨p, hp, rfl⟩ := List.mem_map.1 hc
  exact h p hp scope

/-- A query with one predicate comes to a long pattern if a row does that is tried by it. -/
theorem LibraryQuery.meetsLongPattern_of_single {s : Store} (hs : s.Sound) {shape : Shape}
    {spec : FilterSpec} {p : Predicate} (hp : spec.predicates shape = [p]) :
    (compile shape spec).statement.meetsLongPattern s.tables =
      (s.rows shape.table).any fun row =>
        p.condition.meetsLongPattern (Subselect.values s.tables) (shape.scope s spec.sort row) := by
  have hscopes := Shape.scopes_source hs shape spec.sort
  show ((shape.source spec.sort).scopes s.tables (Union.rows s.tables) []).any (fun scope =>
    Relational.meetsLongPattern (Subselect.values s.tables) scope
      (trialOrder ((spec.predicates shape).map Predicate.condition))) = _
  rw [hscopes, hp, List.any_map]
  simp only [List.map_singleton, Function.comp_def, meetsLongPattern_trialOrder_singleton]

namespace Database

variable {db : Database} {session : Session Database} {size : UInt32}

theorem rows_of_open (hopen : db.closed = false) (operation : String) (s : Statement) :
    db.rows operation s =
      (s.run db.store.tables).mapError fun r => failure operation (engineText 1 r.message) := by
  unfold rows
  rw [hopen]
  rfl

/-! ## Listings -/

/-- An open database lists the rows of a statement, as they are read. -/
theorem outcome_fetchAll_of_open {α : Type} (hopen : session.state.closed = false)
    {s : Statement} (hrun : s.run session.state.store.tables =
      .ok (s.rows session.state.store.tables)) (read : Row → Except LibraryError α) :
    (LibraryService.fetchAll ⟨adapter, size⟩ s read).outcome session =
      ((s.rows session.state.store.tables).mapM read, session.state) := by
  have hrows : session.state.rows "Query" s = .ok (s.rows session.state.store.tables) := by
    rw [rows_of_open hopen, hrun]
    rfl
  rw [LibraryService.outcome_fetchAll]
  show (((session.state.rows "Query" s).mapError _).bind _, _) = _
  rw [hrows]
  rfl

/-! ## Pages of albums -/

/-- Calls give the pages of some rows, with the number of these, which is counted in 64 bits. -/
def GivesPages {α : Type} (db : Database)
    (call : PageRequest → Action LibraryError Database (Page α)) (rows : List Row)
    (read : Row → Except LibraryError α) : Prop :=
  ∃ count, (rows.length < 2 ^ 63 → count = rows.length) ∧
    ∀ request, request.pageSize ≠ 0 →
      (call request).GivesPage (· = db) request (request.slice rows) count read

section Albums

variable {spec : FilterSpec} {request : PageRequest}

/-- Calls for albums give the pages of the rows of their query. -/
theorem givesPages_albums_of_open (hopen : db.closed = false)
    (hcount : (LibraryQuery.compile .albums spec).count.statement.check = .ok ())
    (hwindow : ∀ request, ((LibraryQuery.compile .albums spec).page request).statement.check =
      .ok ())
    (hshort : (LibraryQuery.compile .albums spec).statement.meetsLongPattern db.store.tables =
      false) :
    db.GivesPages (LibraryService.queryAlbums ⟨adapter, size⟩ spec)
      ((LibraryQuery.compile .albums spec).statement.rows db.store.tables) Album.ofRow :=
  ⟨_, LibraryService.toNat_counted, fun request hpage =>
    (steady hopen hcount hwindow hshort).givesPage fun session =>
      LibraryService.outcome_queryAlbums _ spec request session hpage⟩

/-- An open database answers a call for albums with the number of rows, as the engine counts them,
and those of the window, if they can be read. -/
theorem outcome_queryAlbums_of_open (hopen : session.state.closed = false)
    (hcount : (LibraryQuery.compile .albums spec).count.statement.check = .ok ())
    (hwindow : ∀ request, ((LibraryQuery.compile .albums spec).page request).statement.check =
      .ok ())
    (hshort : (LibraryQuery.compile .albums spec).statement.meetsLongPattern
      session.state.store.tables = false) (hpage : request.pageSize ≠ 0) :
    let q := LibraryQuery.compile .albums spec
    let tables := session.state.store.tables
    (LibraryService.queryAlbums ⟨adapter, size⟩ spec request).outcome session =
      ((((q.page request).statement.rows tables).mapM Album.ofRow).map fun albums =>
        LibraryService.pageOf request
          (LibraryService.counted (q.statement.rows tables).length, albums),
        session.state) := by
  intro q tables
  obtain ⟨hread, hstate⟩ := (steady hopen hcount hwindow hshort).readWindow request Album.ofRow rfl
  rw [request.slice_eq_take_drop] at hread
  rw [LibraryService.outcome_queryAlbums _ spec request session hpage]
  dsimp only
  rw [hread, hstate]
  show (Except.map _ (Except.map _ (((q.page request).statement.rows tables).mapM Album.ofRow)),
    _) = _
  cases ((q.page request).statement.rows tables).mapM Album.ofRow <;> rfl

/-- What a call for albums fails with that comes to a long pattern. -/
def longPatternError : LibraryError :=
  .bridge (failure "Query one" (engineText 1 Refusal.patternTooLong.message))

/-- A call for albums that comes to a long pattern fails. -/
theorem queryAlbums_of_longPattern (hopen : session.state.closed = false)
    (hcount : (LibraryQuery.compile .albums spec).count.statement.check = .ok ())
    (hlong : (LibraryQuery.compile .albums spec).statement.parameters.any isLongPattern = true)
    (hmeets : (LibraryQuery.compile .albums spec).statement.meetsLongPattern
      session.state.store.tables = true) (hpage : request.pageSize ≠ 0) :
    (LibraryService.queryAlbums ⟨adapter, size⟩ spec request).outcome session =
      (.error longPatternError, session.state) := by
  have hparameters : (LibraryQuery.compile .albums spec).count.statement.parameters =
      (LibraryQuery.compile .albums spec).statement.parameters := by
    unfold Statement.parameters Statement.arguments
    refine congrArg (List.map Argument.toValue) ?_
    show Rendered.arguments (.text _ :: (Statement.render _ ++ [.text _])) = _
    simp
  have hrun : (LibraryQuery.compile .albums spec).count.statement.run session.state.store.tables =
      .error .patternTooLong := by
    unfold Statement.run
    rw [hcount, hparameters, hlong]
    have hcounted : (LibraryQuery.compile .albums spec).count.statement.meetsLongPattern
        session.state.store.tables = true := hmeets
    rw [hcounted]
    rfl
  have hrows : session.state.rows "Query one"
      (LibraryQuery.compile .albums spec).count.statement =
        .error (failure "Query one" (engineText 1 Refusal.patternTooLong.message)) := by
    rw [rows_of_open hopen, hrun]
    rfl
  rw [LibraryService.outcome_queryAlbums _ spec request session hpage]
  unfold Adapter.readWindow
  have hanswer : adapter.queryOne (LibraryQuery.compile .albums spec).count.statement
      session.state =
        ⟨.error (failure "Query one" (engineText 1 Refusal.patternTooLong.message)), [],
          session.state⟩ := by
    show (⟨(session.state.rows "Query one" _).bind _, _, _⟩ : Answer Database Row) = _
    rw [hrows]
    rfl
  rw [hanswer]
  rfl

end Albums

end Database

end AudioLibrary
