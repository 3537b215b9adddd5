import AudioLibrary.Proofs.Preset.Store
import Mathlib.Data.List.DropRight

/-!
# The preset store as a bounded list

A `Shelf` is a list of presets that keeps the newest `capacity` of them.  A preset store answers
every run of calls as the shelf does on which its readable presets stand, `answers_eq_shelf`: the
two agree in each step, and agree again after it.

With ids that no other preset has, a preset that was just saved can be found.
-/

namespace AudioLibrary

/-! ## Runs -/

/-- Steps one after another, with the answer of each. -/
def stepThrough {α β σ : Type} (step : α → σ → β × σ) : List α → σ → List β × σ
  | [], s => ([], s)
  | a :: as, s =>
      let rest := stepThrough step as (step a s).2
      ((step a s).1 :: rest.1, rest.2)

theorem stepThrough_append {α β σ : Type} (f : α → σ → β × σ) (as bs : List α) (s : σ) :
    stepThrough f (as ++ bs) s =
      ((stepThrough f as s).1 ++ (stepThrough f bs (stepThrough f as s).2).1,
        (stepThrough f bs (stepThrough f as s).2).2) := by
  induction as generalizing s with
  | nil => rfl
  | cons a as ih =>
      show ((f a s).1 :: (stepThrough f (as ++ bs) (f a s).2).1,
        (stepThrough f (as ++ bs) (f a s).2).2) = _
      rw [ih]
      rfl

/-- Two machines that agree in each step agree in every run. -/
theorem stepThrough_related {α β σ τ : Type} {f : α → σ → β × σ} {g : α → τ → β × τ}
    {R : σ → τ → Prop}
    (hstep : ∀ a s t, R s t → (f a s).1 = (g a t).1 ∧ R (f a s).2 (g a t).2) (as : List α) {s : σ}
    {t : τ} (h : R s t) :
    (stepThrough f as s).1 = (stepThrough g as t).1 ∧
      R (stepThrough f as s).2 (stepThrough g as t).2 := by
  induction as generalizing s t with
  | nil => exact ⟨rfl, h⟩
  | cons a as ih =>
      obtain ⟨hanswer, hafter⟩ := hstep a s t h
      obtain ⟨hanswers, hend⟩ := ih hafter
      refine ⟨?_, hend⟩
      show _ :: _ = _ :: _
      rw [hanswer, hanswers]

/-- What each step keeps, every run keeps. -/
theorem stepThrough_keeps {α β σ : Type} {f : α → σ → β × σ} {P : σ → Prop}
    (hstep : ∀ a s, P s → P (f a s).2) (as : List α) {s : σ} (h : P s) :
    P (stepThrough f as s).2 := by
  induction as generalizing s with
  | nil => exact h
  | cons a as ih => exact ih (hstep a s h)

/-! ## Calls -/

/-- A call on a preset store. -/
inductive PresetCall where
  | save (name : String) (spec : FilterSpec)
  | delete (id : String)
  | find (id : String)
  | list

/-- What a call gives. -/
inductive PresetAnswer where
  | saved (preset : Preset)
  | deleted (existed : Bool)
  | found (preset : Option Preset)
  | listed (presets : List Preset)
deriving DecidableEq

/-- A call as the store performs it. -/
def PresetStore.perform (store : PresetStore) :
    PresetCall → Action LibraryError PresetHost PresetAnswer
  | .save name spec => .saved <$> store.save name spec
  | .delete id => .deleted <$> PresetStore.delete id
  | .find id => .found <$> PresetStore.find id
  | .list => .listed <$> PresetStore.list

/-- What a call gives, and the session after it. -/
def PresetStore.answer (store : PresetStore) (call : PresetCall) (s : Session PresetHost) :
    Except LibraryError PresetAnswer × Session PresetHost :=
  (store.perform call).run s

/-- A bounded list of presets, oldest first, and what the next one will have. -/
structure Shelf where
  presets : List Preset
  ids : IdSource
  clock : Time.Clock

namespace Shelf

/-- A call as the shelf performs it. -/
def perform (capacity : Nat) :
    PresetCall → Shelf → Except LibraryError PresetAnswer × Shelf
  | .save name spec, shelf =>
      let trimmed := Text.trimBlanks name
      if trimmed = "" then
        (.error (.invalidInput "name" "preset name must not be blank"), shelf)
      else
        let preset : Preset :=
          { id := shelf.ids.draw.1, name := trimmed, spec, createdAt := shelf.clock.read.1 }
        (.ok (.saved preset),
          { presets := (shelf.presets ++ [preset]).rtake (max capacity 1)
            ids := shelf.ids.draw.2
            clock := shelf.clock.read.2 })
  | .delete id, shelf =>
      (.ok (.deleted (shelf.presets.any (·.id = id))),
        { shelf with presets := shelf.presets.filter (·.id ≠ id) })
  | .find id, shelf => (.ok (.found (shelf.presets.find? (·.id = id))), shelf)
  | .list, shelf => (.ok (.listed shelf.presets), shelf)

/-- Whether all ids to come differ from each other and from those on the shelf. -/
structure HasFreshIds (shelf : Shelf) : Prop where
  injective : ∀ m n, shelf.ids.drawn ≤ m → shelf.ids.drawn ≤ n →
    shelf.ids.id m = shelf.ids.id n → m = n
  new : ∀ n, shelf.ids.drawn ≤ n → ∀ p ∈ shelf.presets, p.id ≠ shelf.ids.id n

/-- Ids stay fresh. -/
theorem HasFreshIds.perform {capacity : Nat} {shelf : Shelf} (h : shelf.HasFreshIds)
    (call : PresetCall) : (Shelf.perform capacity call shelf).2.HasFreshIds := by
  cases call with
  | save name spec =>
      unfold Shelf.perform
      dsimp only
      split
      · exact h
      · refine ⟨fun m n hm hn => h.injective m n (Nat.le_of_succ_le hm) (Nat.le_of_succ_le hn), ?_⟩
        intro n hn p hp hid
        rcases List.mem_append.1 (List.mem_of_mem_drop hp) with hp | hp
        · exact h.new n (Nat.le_of_succ_le hn) p hp hid
        · -- the id just drawn is not drawn again
          obtain rfl := List.mem_singleton.1 hp
          have heq := h.injective _ n (Nat.le_refl _) (Nat.le_of_succ_le hn) hid
          exact absurd hn (heq ▸ Nat.not_succ_le_self _)
  | delete id =>
      exact ⟨h.injective, fun n hn p hp => h.new n hn p (List.mem_filter.1 hp).1⟩
  | find id => exact h
  | list => exact h

/-- A preset that is saved comes last. -/
theorem presets_perform_save {capacity : Nat} {shelf : Shelf} {name : String} {spec : FilterSpec}
    {preset : Preset}
    (h : (Shelf.perform capacity (.save name spec) shelf).1 = .ok (.saved preset)) :
    preset.id = shelf.ids.id shelf.ids.drawn ∧
      (Shelf.perform capacity (.save name spec) shelf).2.presets =
        (shelf.presets ++ [preset]).rtake (max capacity 1) := by
  unfold Shelf.perform at h ⊢
  dsimp only at h ⊢
  split at h
  · cases h
  · next hname =>
      cases h
      rw [if_neg hname]
      exact ⟨rfl, rfl⟩

theorem length_rtake_le (presets : List Preset) (n : Nat) : (presets.rtake n).length ≤ n := by
  unfold List.rtake
  rw [List.length_drop]
  omega

/-- A preset that comes last under an id of its own is found. -/
theorem find?_rtake_append {presets : List Preset} {preset : Preset} {n : Nat} (hn : 0 < n)
    (hnew : ∀ p ∈ presets, p.id ≠ preset.id) :
    ((presets ++ [preset]).rtake n).find? (·.id = preset.id) = some preset := by
  obtain ⟨m, rfl⟩ := Nat.exists_eq_add_one_of_ne_zero (Nat.ne_of_gt hn)
  have hnone : (presets.rtake m).find? (·.id = preset.id) = none := by
    rw [List.find?_eq_none]
    intro p hp hid
    exact hnew p (List.mem_of_mem_drop hp) (of_decide_eq_true hid)
  rw [List.rtake_concat_succ, List.find?_append, hnone, Option.none_or]
  exact List.find?_cons_of_pos (decide_eq_true rfl)

end Shelf

/-- The shelf that a host's presets stand on. -/
def PresetHost.shelf (host : PresetHost) : Shelf := ⟨host.stored, host.ids, host.clock⟩

namespace PresetStore

/-! ## One call -/

theorem isProper_of_mem_appended (store : PresetStore) {presets : List Preset} {preset : Preset}
    (hpresets : ∀ p ∈ presets, p.createdAt.IsProper) (hpreset : preset.createdAt.IsProper) :
    ∀ p ∈ store.appended presets preset, p.createdAt.IsProper := by
  intro p hp
  rcases List.mem_append.1 (List.mem_of_mem_drop hp) with hp | hp
  · exact hpresets p hp
  · exact List.mem_singleton.1 hp ▸ hpreset

/-- Whether a host's settings and clock can be relied on. -/
structure Reliable (host : PresetHost) : Prop where
  works : host.Works
  clock : host.clock.IsProper

theorem Reliable.afterMaking {host : PresetHost} (h : Reliable host) :
    Reliable (PresetStore.afterMaking host) := ⟨h.works, fun n => h.clock n⟩

theorem Reliable.storing {host : PresetHost} (h : Reliable host) (presets : List Preset) :
    Reliable (host.storing presets) := ⟨h.works, h.clock⟩

theorem shelf_storing (host : PresetHost) {presets : List Preset}
    (h : ∀ p ∈ presets, p.createdAt.IsProper) :
    (host.storing presets).shelf = { host.shelf with presets } := by
  unfold PresetHost.shelf
  rw [host.stored_storing h]
  rfl

theorem perform_save (store : PresetStore) (name : String) (spec : FilterSpec) :
    store.perform (.save name spec) = PresetAnswer.saved <$> store.save name spec := rfl

theorem answer_of_ok {store : PresetStore} {call : PresetCall} {s s' : Session PresetHost}
    {α : Type} {g : α → PresetAnswer} {x : Action LibraryError PresetHost α} {a : α}
    (hcall : store.perform call = g <$> x) (hx : x.run s = (.ok a, s')) :
    store.answer call s = (.ok (g a), s') := by
  unfold answer
  rw [hcall, Action.run_map_ok g hx]

theorem answer_of_error {store : PresetStore} {call : PresetCall} {s s' : Session PresetHost}
    {α : Type} {g : α → PresetAnswer} {x : Action LibraryError PresetHost α} {e : LibraryError}
    (hcall : store.perform call = g <$> x) (hx : x.run s = (.error e, s')) :
    store.answer call s = (.error e, s') := by
  unfold answer
  rw [hcall, Action.run_map_error g hx]

/-- Whether a call answers on a host as on its shelf, and changes the host as it changes the
shelf. -/
def AnswersAlike (capacity : Nat) (call : PresetCall) (s : Session PresetHost) : Prop :=
  let answered := (withCapacity capacity).answer call s
  let expected := Shelf.perform capacity call s.state.shelf
  answered.1 = expected.1 ∧ Reliable answered.2.state ∧ answered.2.state.shelf = expected.2

variable {s : Session PresetHost}

theorem save_answersAlike (h : Reliable s.state) (capacity : Nat) (name : String)
    (spec : FilterSpec) : AnswersAlike capacity (.save name spec) s := by
  unfold AnswersAlike Shelf.perform
  dsimp only
  by_cases hname : Text.trimBlanks name = ""
  · have hblank := run_save_blank (withCapacity capacity) spec hname s
    rw [answer_of_error (perform_save _ name spec) hblank, if_pos hname]
    exact ⟨rfl, h, rfl⟩
  · obtain ⟨s', hsave, hstate⟩ := run_save (withCapacity capacity) spec h.works hname
    have hmade : (made s.state (Text.trimBlanks name) spec).createdAt.IsProper :=
      h.clock s.state.clock.readings
    have hproper := isProper_of_mem_appended (withCapacity capacity)
      s.state.isProper_of_mem_stored hmade
    rw [answer_of_ok (perform_save _ name spec) hsave, if_neg hname]
    refine ⟨rfl, ?_, ?_⟩
    · rw [hstate]
      exact h.afterMaking.storing _
    · rw [hstate, shelf_storing _ hproper]
      rfl

theorem delete_answersAlike (h : Reliable s.state) (capacity : Nat) (id : String) :
    AnswersAlike capacity (.delete id) s := by
  obtain ⟨s', hdelete, hstate⟩ := run_delete h.works id
  unfold AnswersAlike
  rw [answer_of_ok rfl hdelete]
  refine ⟨rfl, ?_⟩
  rcases hstate with ⟨hsame, hnone⟩ | hstored
  · rw [hsame]
    exact ⟨h, congrArg (fun presets => { s.state.shelf with presets }) hnone.symm⟩
  · have hproper : ∀ p ∈ without s.state.stored id, p.createdAt.IsProper := fun p hp =>
      s.state.isProper_of_mem_stored p (List.mem_filter.1 hp).1
    rw [hstored, shelf_storing _ hproper]
    exact ⟨h.storing _, rfl⟩

theorem find_answersAlike (h : Reliable s.state) (capacity : Nat) (id : String) :
    AnswersAlike capacity (.find id) s := by
  obtain ⟨s', hfind, hstate⟩ := run_find h.works.1 id
  unfold AnswersAlike
  rw [answer_of_ok rfl hfind]
  dsimp only
  rw [hstate]
  exact ⟨rfl, h, rfl⟩

theorem list_answersAlike (h : Reliable s.state) (capacity : Nat) :
    AnswersAlike capacity .list s := by
  obtain ⟨s', hlist, hstate⟩ := run_list h.works.1
  unfold AnswersAlike
  rw [answer_of_ok rfl hlist]
  dsimp only
  rw [hstate]
  exact ⟨rfl, h, rfl⟩

/-- **A call answers as the shelf does.** -/
theorem answersAlike (h : Reliable s.state) (capacity : Nat) (call : PresetCall) :
    AnswersAlike capacity call s := by
  cases call with
  | save name spec => exact save_answersAlike h capacity name spec
  | delete id => exact delete_answersAlike h capacity id
  | find id => exact find_answersAlike h capacity id
  | list => exact list_answersAlike h capacity

/-! ## Runs of calls -/

/-- A run of calls answers as the shelf does. -/
theorem stepThrough_answer_eq (h : Reliable s.state) (capacity : Nat) (calls : List PresetCall) :
    let answered := stepThrough (withCapacity capacity).answer calls s
    let expected := stepThrough (Shelf.perform capacity) calls s.state.shelf
    answered.1 = expected.1 ∧ Reliable answered.2.state ∧ answered.2.state.shelf = expected.2 := by
  refine stepThrough_related
    (R := fun (s : Session PresetHost) shelf => Reliable s.state ∧ s.state.shelf = shelf) ?_
    calls ⟨h, rfl⟩
  rintro call s shelf ⟨hreliable, rfl⟩
  exact answersAlike hreliable capacity call

/-- What was just saved is found, and no more than the capacity is stored. -/
theorem found_after_save (h : Reliable s.state) (hfresh : s.state.shelf.HasFreshIds)
    {capacity : Nat} {name : String} {spec : FilterSpec} {preset : Preset}
    {s' : Session PresetHost}
    (hsave : ((withCapacity capacity).save name spec).run s = (.ok preset, s')) :
    ((withCapacity capacity).answer (.find preset.id) s').1 = .ok (.found (some preset)) ∧
      s'.state.stored.length ≤ (withCapacity capacity).capacity := by
  have halike := save_answersAlike h capacity name spec
  unfold AnswersAlike at halike
  rw [answer_of_ok (perform_save _ name spec) hsave] at halike
  obtain ⟨hanswer, hreliable, hshelf⟩ := halike
  obtain ⟨hid, hpresets⟩ := Shelf.presets_perform_save hanswer.symm
  have hstored : s'.state.stored = (s.state.stored ++ [preset]).rtake (max capacity 1) :=
    (congrArg Shelf.presets hshelf).trans hpresets
  have hnew : ∀ p ∈ s.state.stored, p.id ≠ preset.id := by
    intro p hp
    rw [hid]
    exact hfresh.new _ (Nat.le_refl _) p hp
  constructor
  · rw [(find_answersAlike hreliable capacity preset.id).1]
    -- the shelf keeps its last presets, and no older one has the same id
    have hfound := Shelf.find?_rtake_append (Nat.le_max_right capacity 1) hnew
    rw [← hstored] at hfound
    exact congrArg (fun p => Except.ok (PresetAnswer.found p)) hfound
  · rw [hstored]
    exact Shelf.length_rtake_le _ _

end PresetStore

/-- **A preset store is a bounded list.**  From whatever text was stored, every run of calls answers
as the shelf of its readable presets does, and stores what then stands on the shelf.  After any
such run, what is saved is found, and no more than the capacity is stored. -/
theorem answers_eq_shelf (capacity : Nat) {s : Session PresetHost} (hworks : s.state.Works)
    (hclock : s.state.clock.IsProper) (hfresh : s.state.shelf.HasFreshIds)
    (calls : List PresetCall) :
    let store := PresetStore.withCapacity capacity
    let answered := stepThrough store.answer calls s
    let expected := stepThrough (Shelf.perform capacity) calls s.state.shelf
    answered.1 = expected.1 ∧ answered.2.state.stored = expected.2.presets ∧
      ∀ name spec preset s', (store.save name spec).run answered.2 = (.ok preset, s') →
        (store.answer (.find preset.id) s').1 = .ok (.found (some preset)) ∧
          s'.state.stored.length ≤ store.capacity := by
  intro store answered expected
  obtain ⟨hanswers, hreliable, hshelf⟩ :=
    PresetStore.stepThrough_answer_eq ⟨hworks, hclock⟩ capacity calls
  have hfresh' : answered.2.state.shelf.HasFreshIds := by
    rw [hshelf]
    exact stepThrough_keeps (fun call _ h => h.perform call) calls hfresh
  refine ⟨hanswers, congrArg Shelf.presets hshelf, ?_⟩
  intro name spec preset s' hsave
  exact PresetStore.found_after_save hreliable hfresh' hsave

/-- A host with a text that cannot be read, and a clock that stands still. -/
def PresetHost.sample : PresetHost where
  settings := { settings := ⟨[(PresetStore.key, "\x7bnot json")]⟩ }
  clock := .steady 0 0
  ids := .numbered "preset-"

theorem IdSource.numbered_injective (word : String) {m n : Nat}
    (h : (numbered word).id m = (numbered word).id n) : m = n := by
  have hlists := String.ofList_injective (String.append_right_inj word |>.1 h)
  have hvalue := congrArg (Nat.ofDigitChars 10 · 0) hlists
  rw [Nat.ofDigitChars_ten_toDigits, Nat.ofDigitChars_ten_toDigits] at hvalue
  exact Nat.succ.inj hvalue

/-- A store for one preset that starts from an unreadable text. -/
theorem answers_eq_shelf_sample :
    let s : Session PresetHost := { state := .sample }
    s.state.Works ∧ s.state.clock.IsProper ∧ s.state.shelf.HasFreshIds ∧
      (stepThrough (PresetStore.withCapacity 1).answer
        [.save " a " {}, .save "b" {}, .find "preset-1", .list] s).1 =
          [.ok (.saved ⟨"preset-1", "a", {}, ⟨0, 0⟩⟩), .ok (.saved ⟨"preset-2", "b", {}, ⟨0, 0⟩⟩),
            .ok (.found none), .ok (.listed [⟨"preset-2", "b", {}, ⟨0, 0⟩⟩])] := by
  intro s
  have hstored : s.state.stored = [] := by decide
  have hworks : s.state.Works := ⟨rfl, rfl⟩
  have hclock : s.state.clock.IsProper := by
    intro n
    show (Time.Instant.ofMillis (0 + n * 0)).IsProper
    rw [Int.mul_zero]
    decide
  have hfresh : s.state.shelf.HasFreshIds := by
    refine ⟨fun m n _ _ h => IdSource.numbered_injective "preset-" h, fun n _ p hp => ?_⟩
    change p ∈ s.state.stored at hp
    rw [hstored] at hp
    cases hp
  refine ⟨hworks, hclock, hfresh, ?_⟩
  rw [(answers_eq_shelf 1 hworks hclock hfresh _).1]
  have hshelf : s.state.shelf = ⟨[], s.state.ids, s.state.clock⟩ :=
    congrArg (fun presets => (⟨presets, s.state.ids, s.state.clock⟩ : Shelf)) hstored
  rw [hshelf]
  decide

end AudioLibrary
