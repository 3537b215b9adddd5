import AudioLibrary.Page
import Mathlib.Algebra.Order.Floor.Div

/-!
# Windows and numbers of pages

`PageRequest.window` is the part of a list that a request names, and `PageRequest.slice` the part
that is read for it: offsets stay at the last word, which leaves out as much as it should of a list
with fewer members than there are words.

`Page.Answers` says what a page holds that answers a request: the items that it should, the number
of rows on all pages, and the numbers that belong to these.  A page that announces another one
counts rows beyond its own, and, if there are fewer rows than words, one that announces none does
not.
-/

namespace AudioLibrary

namespace PageRequest

variable {α : Type} (request : PageRequest)

/-- The rows of one page of a list. -/
def window (l : List α) : List α :=
  (l.drop (request.page.toNat * request.pageSize.toNat)).take request.pageSize.toNat

/-- The rows that are read for one page of a list, which starts at the last word at the latest. -/
def slice (l : List α) : List α :=
  (l.drop (min (request.page.toNat * request.pageSize.toNat) (2 ^ 32 - 1))).take
    request.pageSize.toNat

theorem toNat_offset :
    request.offset.toNat = min (request.page.toNat * request.pageSize.toNat) (2 ^ 32 - 1) :=
  UInt32.toNat_ofNat_of_lt' (show min _ (2 ^ 32 - 1) < 2 ^ 32 by omega)

theorem slice_eq_take_drop (l : List α) :
    request.slice l = (l.drop request.offset.toNat).take request.limit.toNat := by
  rw [toNat_offset]
  rfl

/-- An offset that stays at the last word leaves out as much as the one that it stands for. -/
theorem slice_eq_window {l : List α} (h : l.length < 2 ^ 32) :
    request.slice l = request.window l := by
  unfold slice window
  rcases Nat.le_total (request.page.toNat * request.pageSize.toNat) (2 ^ 32 - 1) with hle | hle
  · rw [Nat.min_eq_left hle]
  · rw [Nat.min_eq_right hle, List.drop_eq_nil_of_le (by omega),
      List.drop_eq_nil_of_le (by omega)]

end PageRequest

namespace Page

variable {α : Type}

/-! ## Pages that answer -/

/-- A page answers a request and shows some items, while so many are counted on all pages. -/
structure Answers (p : Page α) (request : PageRequest) (shown : List α) (count : Nat) : Prop where
  items : p.items = shown
  total : p.total.toNat = count
  page : p.page = request.page
  pageSize : p.pageSize = request.pageSize
  /-- There are as many pages as the rows need, modulo the size of a word. -/
  totalPages : p.totalPages = .ofNat (count ⌈/⌉ request.pageSize.toNat)

theorem pageCount_eq_ceilDiv (total : UInt64) (size : UInt32) :
    pageCount total size = .ofNat (total.toNat ⌈/⌉ size.toNat) := by
  unfold pageCount
  split
  · next h =>
      subst h
      exact congrArg UInt32.ofNat (ceilDiv_zero total.toNat).symm
  · next h =>
      have hpos : size.toNat ≠ 0 := fun hzero => h (UInt32.toNat_inj.1 hzero)
      rw [Nat.ceilDiv_eq_add_pred_div, Nat.add_sub_assoc (Nat.one_le_iff_ne_zero.2 hpos)]

theorem answers_ofRequest (items : List α) (total : UInt64) (request : PageRequest) :
    (ofRequest items total request).Answers request items total.toNat where
  items := rfl
  total := rfl
  page := rfl
  pageSize := rfl
  totalPages := pageCount_eq_ceilDiv total request.pageSize

/-- There is one page that answers so. -/
theorem Answers.unique {p p' : Page α} {request : PageRequest} {shown : List α} {count : Nat}
    (h : p.Answers request shown count) (h' : p'.Answers request shown count) : p = p' := by
  obtain ⟨hitems, htotal, hpage, hsize, hpages⟩ := h
  obtain ⟨hitems', htotal', hpage', hsize', hpages'⟩ := h'
  cases p
  cases p'
  obtain rfl := hitems.trans hitems'.symm
  obtain rfl := UInt64.toNat_inj.1 (htotal.trans htotal'.symm)
  obtain rfl := hpage.trans hpage'.symm
  obtain rfl := hsize.trans hsize'.symm
  obtain rfl := hpages.trans hpages'.symm
  rfl

/-! ## Pages that announce others -/

theorem nextRequest_eq_some_iff {p : Page α} {request : PageRequest} :
    p.nextRequest = some request ↔
      p.page.toNat + 1 < p.totalPages.toNat ∧ request = ⟨p.page + 1, p.pageSize⟩ := by
  unfold nextRequest hasNext
  by_cases h : p.page.toNat + 1 < p.totalPages.toNat
  · simp [h, eq_comm]
  · simp [h]

theorem toNat_pos {size : UInt32} (h : size ≠ 0) : 0 < size.toNat :=
  Nat.pos_of_ne_zero fun hzero => h (UInt32.toNat_inj.1 hzero)

/-- A page that announces another one counts rows beyond its own. -/
theorem lt_total_of_lt_pageCount {total : UInt64} {size : UInt32} {k : Nat}
    (h : k < (pageCount total size).toNat) : k * size.toNat < total.toNat := by
  have hsize : size ≠ 0 := by
    rintro rfl
    exact absurd h (Nat.not_lt_zero k)
  have hpos := toNat_pos hsize
  rw [pageCount, if_neg hsize, UInt32.toNat_ofNat'] at h
  have hceil : k + 1 ≤ (total.toNat + (size.toNat - 1)) / size.toNat :=
    Nat.le_trans h (Nat.mod_le _ _)
  have hmul : (k + 1) * size.toNat ≤ total.toNat + (size.toNat - 1) :=
    (Nat.le_div_iff_mul_le hpos).1 hceil
  rw [Nat.succ_mul] at hmul
  omega

/-- The page after the last one starts beyond all rows. -/
theorem le_mul_of_pageCount_le {total : UInt64} {size : UInt32} {k : Nat} (hsize : size ≠ 0)
    (hfew : total.toNat < 2 ^ 32) (h : (pageCount total size).toNat ≤ k) :
    total.toNat ≤ k * size.toNat := by
  have hpos := toNat_pos hsize
  have hceil : (total.toNat + (size.toNat - 1)) / size.toNat < 2 ^ 32 :=
    Nat.div_lt_of_lt_mul (by omega)
  rw [pageCount, if_neg hsize, UInt32.toNat_ofNat_of_lt' hceil] at h
  have hmul : total.toNat + (size.toNat - 1) < (k + 1) * size.toNat :=
    (Nat.div_lt_iff_lt_mul hpos).1 (Nat.lt_succ_of_le h)
  rw [Nat.succ_mul] at hmul
  omega

end Page

end AudioLibrary
