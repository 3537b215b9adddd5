import AudioLibrary.Proofs.Page
import Mathlib.Data.List.Nodup

/-!
# Visiting every page

Whoever reads a page and then the page that it announces, from the first one on, visits the pages
`0, 1, 2, …` up to the last one that holds a row (`visits_first`), as long as a word can count them.
Page `k` starts at row `k * size`, and the windows then hold each row once, as long as a word can
name the start of each of them.

An offset beyond the last word stays at the last word.  So a page that starts further on is read
from row `2 ^ 32 - 1`, which a page before it has already read.  `visited_once_iff` puts the two
together: each row is read once exactly if no page with a row starts beyond the words.
-/

namespace AudioLibrary

/-! ## How many pages there are -/

namespace Page

/-- The number of pages that hold a row. -/
def pagesNeeded (total : UInt64) (size : UInt32) : Nat :=
  (total.toNat + (size.toNat - 1)) / size.toNat

variable {total : UInt64} {size : UInt32}

theorem lt_pagesNeeded_iff (hsize : size ≠ 0) {k : Nat} :
    k < pagesNeeded total size ↔ k * size.toNat < total.toNat := by
  have hpos := toNat_pos hsize
  unfold pagesNeeded
  rw [← Nat.succ_le_iff, Nat.le_div_iff_mul_le hpos, Nat.succ_mul]
  omega

/-- The page count is the number of pages if that is a word. -/
theorem toNat_pageCount (hsize : size ≠ 0) (hword : pagesNeeded total size < 2 ^ 32) :
    (pageCount total size).toNat = pagesNeeded total size := by
  unfold pageCount
  rw [if_neg hsize]
  exact UInt32.toNat_ofNat_of_lt' hword

end Page

namespace PageRequest

variable {α : Type} (items : PageRequest → List α) (total : UInt64) (size : UInt32)

/-! ## The pages that are visited -/

/-- Page `k`. -/
def numbered (size : UInt32) (k : Nat) : PageRequest := ⟨.ofNat k, size⟩

/-- The requests of a reader who starts with a page, and goes on to the page that is announced
until none is.  The rows of the pages do not count. -/
def visits (request : PageRequest) : List PageRequest :=
  match h : (Page.ofRequest (items request) total request).nextRequest with
  | none => [request]
  | some next =>
      have : next.page.toNat = request.page.toNat + 1 := Page.page_of_nextRequest h
      request :: visits next
termination_by 2 ^ 32 - request.page.toNat
decreasing_by
  have hword : next.page.toNat < 2 ^ 32 := next.page.toNat_lt
  omega

theorem visits_of_none {request : PageRequest}
    (h : (Page.ofRequest (items request) total request).nextRequest = none) :
    visits items total request = [request] := by
  rw [visits]
  split
  · rfl
  · next hnext => cases h.symm.trans hnext

theorem visits_of_some {request next : PageRequest}
    (h : (Page.ofRequest (items request) total request).nextRequest = some next) :
    visits items total request = request :: visits items total next := by
  rw [visits]
  split
  · next hnone => cases h.symm.trans hnone
  · next hnext =>
      obtain rfl := Option.some.inj (h.symm.trans hnext)
      rfl

/-- From page `p` on the pages are visited in turn, up to the last one that is counted. -/
theorem visits_numbered {p n : Nat} (hp : p < 2 ^ 32)
    (hlast : p + n + 1 = max (Page.pageCount total size).toNat (p + 1)) :
    visits items total (numbered size p) = (List.range' p (n + 1)).map (numbered size) := by
  induction n generalizing p with
  | zero =>
      have hnone : (Page.ofRequest (items (numbered size p)) total
          (numbered size p)).nextRequest = none := by
        refine Option.eq_none_iff_forall_ne_some.2 fun next hnext => ?_
        have hlt : (UInt32.ofNat p).toNat + 1 < (Page.pageCount total size).toNat :=
          (Page.nextRequest_eq_some_iff.1 hnext).1
        rw [UInt32.toNat_ofNat_of_lt' hp] at hlt
        omega
      exact visits_of_none items total hnone
  | succ n ih =>
      have hcount : (Page.pageCount total size).toNat < 2 ^ 32 := UInt32.toNat_lt _
      have hnumber : UInt32.ofNat p + 1 = .ofNat (p + 1) := by
        rw [UInt32.ofNat_add]
        rfl
      have hsome : (Page.ofRequest (items (numbered size p)) total
          (numbered size p)).nextRequest = some (numbered size (p + 1)) := by
        refine Page.nextRequest_eq_some_iff.2 ⟨?_, ?_⟩
        · show (UInt32.ofNat p).toNat + 1 < (Page.pageCount total size).toNat
          rw [UInt32.toNat_ofNat_of_lt' hp]
          omega
        · show numbered size (p + 1) = ⟨.ofNat p + 1, size⟩
          rw [hnumber]
          rfl
      rw [visits_of_some items total hsome, ih (by omega) (by omega), List.range'_succ]
      rfl

/-- **All counted pages are visited in turn**, and the first one even if none is counted. -/
theorem visits_first :
    visits items total (.first size) =
      (List.range (max (Page.pageCount total size).toNat 1)).map (numbered size) := by
  have hfirst := visits_numbered items total size (p := 0)
    (n := max (Page.pageCount total size).toNat 1 - 1) (by decide) (by omega)
  have hlength : max (Page.pageCount total size).toNat 1 - 1 + 1 =
      max (Page.pageCount total size).toNat 1 := by omega
  rwa [hlength, ← List.range_eq_range'] at hfirst

/-- No page is visited twice. -/
theorem nodup_visits : (visits items total (.first size)).Nodup := by
  rw [visits_first]
  refine List.Nodup.map_on (fun j hj k hk h => ?_) List.nodup_range
  have hcount : (Page.pageCount total size).toNat < 2 ^ 32 := UInt32.toNat_lt _
  have hpage : (UInt32.ofNat j).toNat = (UInt32.ofNat k).toNat :=
    congrArg (fun request : PageRequest => request.page.toNat) h
  rw [List.mem_range] at hj hk
  rwa [UInt32.toNat_ofNat_of_lt' (show j < 2 ^ 32 by omega),
    UInt32.toNat_ofNat_of_lt' (show k < 2 ^ 32 by omega)] at hpage

/-! ## The rows of a window -/

/-- Whether a row, counted from zero, lies in the window of a request. -/
def Covers (request : PageRequest) (row : Nat) : Prop :=
  request.offset.toNat ≤ row ∧ row < request.offset.toNat + request.limit.toNat

/-- Page `k` starts at row `k * size`, or at the last word if that comes first. -/
theorem offset_numbered {k : Nat} (hk : k < 2 ^ 32) :
    (numbered size k).offset.toNat = min (k * size.toNat) (2 ^ 32 - 1) := by
  have hword : min (k * size.toNat) maxWord < 2 ^ 32 :=
    Nat.lt_of_le_of_lt (Nat.min_le_right _ _) (by decide)
  show (UInt32.ofNat (min ((UInt32.ofNat k).toNat * size.toNat) maxWord)).toNat = _
  rw [UInt32.toNat_ofNat_of_lt' hk, UInt32.toNat_ofNat_of_lt' hword]
  rfl

variable {size}

theorem covers_numbered_iff {k row : Nat} (hk : k < 2 ^ 32) :
    (numbered size k).Covers row ↔
      min (k * size.toNat) (2 ^ 32 - 1) ≤ row ∧
        row < min (k * size.toNat) (2 ^ 32 - 1) + size.toNat := by
  unfold Covers
  rw [offset_numbered size hk]
  rfl

/-- A page that starts within the words holds the rows of its quotient. -/
theorem covers_numbered_iff_div_eq (hsize : size ≠ 0) {k row : Nat}
    (hk : k * size.toNat < 2 ^ 32) :
    (numbered size k).Covers row ↔ row / size.toNat = k := by
  have hpos := Page.toNat_pos hsize
  have hword : k < 2 ^ 32 := Nat.lt_of_le_of_lt (Nat.le_mul_of_pos_right k hpos) hk
  rw [covers_numbered_iff hword, Nat.min_eq_left (by omega), Nat.div_eq_iff hpos]
  omega

/-- A page that starts beyond the words begins with the last word. -/
theorem covers_maxWord_of_beyond (hsize : size ≠ 0) {k : Nat} (hword : k < 2 ^ 32)
    (hk : 2 ^ 32 ≤ k * size.toNat) : (numbered size k).Covers maxWord := by
  have hpos := Page.toNat_pos hsize
  rw [covers_numbered_iff hword, Nat.min_eq_right (by omega)]
  unfold maxWord
  omega

variable {total}

theorem mem_visits_iff (hsize : size ≠ 0) (hword : Page.pagesNeeded total size < 2 ^ 32)
    {request : PageRequest} :
    request ∈ visits items total (.first size) ↔
      ∃ k, (k * size.toNat < total.toNat ∨ k = 0) ∧ request = numbered size k := by
  rw [visits_first, Page.toNat_pageCount hsize hword, List.mem_map]
  refine exists_congr fun k => and_congr ?_ eq_comm
  have hmax : k < max (Page.pagesNeeded total size) 1 ↔
      k < Page.pagesNeeded total size ∨ k = 0 := by omega
  rw [List.mem_range, hmax, Page.lt_pagesNeeded_iff hsize]

/-! ## Each row once -/

/-- Where no page starts beyond the words, a row is read with the page of its quotient alone. -/
theorem existsUnique_covers (hsize : size ≠ 0) (hword : Page.pagesNeeded total size < 2 ^ 32)
    (hstart : ∀ k, k * size.toNat < total.toNat → k * size.toNat < 2 ^ 32) {row : Nat}
    (hrow : row < total.toNat) :
    ∃! request, request ∈ visits items total (.first size) ∧ request.Covers row := by
  have hfirst : row / size.toNat * size.toNat ≤ row := Nat.div_mul_le_self _ _
  have hown : row / size.toNat * size.toNat < total.toNat := Nat.lt_of_le_of_lt hfirst hrow
  refine ⟨numbered size (row / size.toNat), ⟨?_, ?_⟩, ?_⟩
  · exact (mem_visits_iff items hsize hword).2 ⟨_, Or.inl hown, rfl⟩
  · exact (covers_numbered_iff_div_eq hsize (hstart _ hown)).2 rfl
  · rintro request ⟨hmem, hcovers⟩
    obtain ⟨k, hk, rfl⟩ := (mem_visits_iff items hsize hword).1 hmem
    have hbelow : k * size.toNat < 2 ^ 32 := by
      rcases hk with hk | rfl
      · exact hstart k hk
      · omega
    rw [(covers_numbered_iff_div_eq hsize hbelow).1 hcovers]

/-- Where a page starts beyond the words, the last word is read with it and with a page before. -/
theorem exists_two_covers (hsize : size ≠ 0) (hword : Page.pagesNeeded total size < 2 ^ 32)
    {k : Nat} (hk : k * size.toNat < total.toNat) (hbeyond : 2 ^ 32 ≤ k * size.toNat) :
    ∃ request ∈ visits items total (.first size),
      ∃ other ∈ visits items total (.first size),
        request ≠ other ∧ request.Covers maxWord ∧ other.Covers maxWord := by
  have hfirst : maxWord / size.toNat * size.toNat ≤ maxWord := Nat.div_mul_le_self _ _
  have hmax : maxWord < 2 ^ 32 := by decide
  have hcount : k < 2 ^ 32 := Nat.lt_trans ((Page.lt_pagesNeeded_iff hsize).2 hk) hword
  have hcovers := covers_maxWord_of_beyond hsize hcount hbeyond
  have hcovers' : (numbered size (maxWord / size.toNat)).Covers maxWord :=
    (covers_numbered_iff_div_eq hsize (Nat.lt_of_le_of_lt hfirst hmax)).2 rfl
  refine ⟨_, (mem_visits_iff items hsize hword).2 ⟨k, Or.inl hk, rfl⟩, _,
    (mem_visits_iff items hsize hword).2 ⟨maxWord / size.toNat, Or.inl (by omega), rfl⟩, ?_,
    hcovers, hcovers'⟩
  intro h
  have hpage : (UInt32.ofNat k).toNat = (UInt32.ofNat (maxWord / size.toNat)).toNat :=
    congrArg (fun request : PageRequest => request.page.toNat) h
  rw [UInt32.toNat_ofNat_of_lt' hcount, UInt32.toNat_ofNat_of_lt'
    (show maxWord / size.toNat < 2 ^ 32 from Nat.lt_of_le_of_lt (Nat.div_le_self _ _) hmax)]
    at hpage
  rw [hpage] at hbeyond
  omega

/-- **Each row is read once exactly if no page with a row starts beyond the words.**  This is so of
every result with at most `2 ^ 32` rows. -/
theorem visited_once_iff (items : PageRequest → List α) {total : UInt64} {size : UInt32}
    (hsize : size ≠ 0) (hword : Page.pagesNeeded total size < 2 ^ 32) :
    let pages := visits items total (.first size)
    (pages.Nodup ∧
        ∀ row < total.toNat, ∃! request, request ∈ pages ∧ request.Covers row) ↔
      ∀ k, k * size.toNat < total.toNat → k * size.toNat < 2 ^ 32 := by
  intro pages
  constructor
  · rintro ⟨-, hunique⟩ k hk
    by_contra hbelow
    have hbeyond := Nat.le_of_not_lt hbelow
    obtain ⟨request, hmem, other, hmem', hne, hcovers, hcovers'⟩ :=
      exists_two_covers items hsize hword hk hbeyond
    have hrow : maxWord < total.toNat :=
      Nat.lt_of_lt_of_le (show maxWord < 2 ^ 32 by decide) (Nat.le_trans hbeyond (Nat.le_of_lt hk))
    exact hne ((hunique maxWord hrow).unique ⟨hmem, hcovers⟩ ⟨hmem', hcovers'⟩)
  · intro hstart
    exact ⟨nodup_visits items total size, fun row => existsUnique_covers items hsize hword hstart⟩

/-- More rows than words, the last three on a page that starts within the words. -/
theorem visited_once_iff_by_threes :
    let total : UInt64 := 4294967298
    let pages := visits (fun _ => ([] : List Nat)) total (.first 3)
    (3 : UInt32) ≠ 0 ∧ Page.pagesNeeded total 3 < 2 ^ 32 ∧ pages.Nodup ∧
      ∀ row < total.toNat, ∃! request, request ∈ pages ∧ request.Covers row := by
  intro total pages
  have hsize : (3 : UInt32) ≠ 0 := by decide
  have hword : Page.pagesNeeded total 3 < 2 ^ 32 := by decide
  have hstart : ∀ k, k * (3 : UInt32).toNat < total.toNat →
      k * (3 : UInt32).toNat < 2 ^ 32 := by
    intro k hk
    have hk' : k * 3 < 4294967298 := hk
    show k * 3 < 2 ^ 32
    omega
  exact ⟨hsize, hword, (visited_once_iff (fun _ => ([] : List Nat)) hsize hword).2 hstart⟩

/-- **The same rows in pages of two are not all read**: the last page starts beyond the words, so
the last row lies in no window. -/
theorem last_row_not_visited :
    let total : UInt64 := 4294967298
    let pages := visits (fun _ => ([] : List Nat)) total (.first 2)
    ¬ ∀ row < total.toNat, ∃! request, request ∈ pages ∧ request.Covers row := by
  intro total pages h
  obtain ⟨request, ⟨hmem, -, hend⟩, -⟩ := h 4294967297 (by decide)
  have hmax : request.offset.toNat < 2 ^ 32 := UInt32.toNat_lt _
  have hlimit : request.limit.toNat = 2 := by
    obtain ⟨k, -, rfl⟩ := (mem_visits_iff _ (by decide) (by decide)).1 hmem
    rfl
  omega

end PageRequest

end AudioLibrary
