import AudioLibrary.Number.Power

/-!
# Pages

A `PageRequest` names a window of rows by a page number, counted from zero, and a page size.  A
`Page` holds the rows of one window, the size of the whole result and the number of pages.

Page numbers and sizes are 32-bit words.  An offset beyond the last word stays at the last word; a
page count beyond it loses its high bits.
-/

namespace AudioLibrary

/-- A window of rows to fetch. -/
structure PageRequest where
  page : UInt32
  pageSize : UInt32
deriving DecidableEq, Repr, Inhabited

namespace PageRequest

/-- The greatest 32-bit word. -/
def maxWord : Nat := 2 ^ 32 - 1

def first (pageSize : UInt32) : PageRequest := ⟨0, pageSize⟩

/-- Rows per page when nothing else is asked for. -/
def defaultSize : UInt32 := 50

def standard : PageRequest := first defaultSize

/-- The number of rows before the window. -/
def offset (r : PageRequest) : UInt32 := .ofNat (min (r.page.toNat * r.pageSize.toNat) maxWord)

def limit (r : PageRequest) : UInt32 := r.pageSize

/-- The window after this one; the last page number stays. -/
def next (r : PageRequest) : PageRequest := ⟨.ofNat (min (r.page.toNat + 1) maxWord), r.pageSize⟩

end PageRequest

/-- One page of a result. -/
structure Page (α : Type) where
  items : List α
  /-- Rows on all pages. -/
  total : UInt64
  page : UInt32
  totalPages : UInt32
  pageSize : UInt32
deriving DecidableEq, Repr

namespace Page

variable {α β : Type}

/-- How many pages hold `total` rows, modulo the size of a word; none if pages hold no row. -/
def pageCount (total : UInt64) (pageSize : UInt32) : UInt32 :=
  if pageSize = 0 then 0
  else .ofNat ((total.toNat + (pageSize.toNat - 1)) / pageSize.toNat)

/-- The page that answers a request. -/
def ofRequest (items : List α) (total : UInt64) (request : PageRequest) : Page α :=
  { items, total, page := request.page, totalPages := pageCount total request.pageSize,
    pageSize := request.pageSize }

/-- Whether a page follows. -/
def hasNext (p : Page α) : Bool := p.page.toNat + 1 < p.totalPages.toNat

def hasPrevious (p : Page α) : Bool := 0 < p.page

/-- The request for the page that follows. -/
def nextRequest (p : Page α) : Option PageRequest :=
  if p.hasNext then some ⟨p.page + 1, p.pageSize⟩ else none

def map (f : α → β) (p : Page α) : Page β := { p with items := p.items.map f }

/-- The page that follows has the next number, and no number wraps around. -/
theorem page_of_nextRequest {p : Page α} {r : PageRequest} (h : p.nextRequest = some r) :
    r.page.toNat = p.page.toNat + 1 := by
  unfold nextRequest at h
  split at h
  · next hn =>
      have hlt : p.page.toNat + 1 < p.totalPages.toNat := by simpa [hasNext] using hn
      have hmax : p.totalPages.toNat < 2 ^ 32 := p.totalPages.toNat_lt
      cases h
      simp only [UInt32.toNat_add, UInt32.toNat_one]
      omega
  · cases h

end Page

end AudioLibrary
