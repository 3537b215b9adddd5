/-!
# Row numbers

Albums, tracks and tags are known by 64-bit row numbers, each kind by a type of its own.
-/

namespace AudioLibrary

structure AlbumId where
  value : Int64
deriving DecidableEq, Repr, Inhabited

structure TrackId where
  value : Int64
deriving DecidableEq, Repr, Inhabited

structure TagId where
  value : Int64
deriving DecidableEq, Repr, Inhabited

namespace AlbumId

/-- The number in decimal digits. -/
def display (id : AlbumId) : String := toString id.value.toInt

/-- The number with its kind. -/
def describe (id : AlbumId) : String := "AlbumId(" ++ id.display ++ ")"

end AlbumId

namespace TrackId

/-- The number in decimal digits. -/
def display (id : TrackId) : String := toString id.value.toInt

/-- The number with its kind. -/
def describe (id : TrackId) : String := "TrackId(" ++ id.display ++ ")"

end TrackId

namespace TagId

/-- The number in decimal digits. -/
def display (id : TagId) : String := toString id.value.toInt

/-- The number with its kind. -/
def describe (id : TagId) : String := "TagId(" ++ id.display ++ ")"

/-- Tags are ordered by their numbers. -/
instance : Ord TagId := ⟨fun a b => compare a.value b.value⟩

instance : Std.LawfulEqOrd TagId where
  compare_self := Std.ReflOrd.compare_self (α := Int64)
  eq_of_compare h := by
    rename_i a b
    have : a.value = b.value := Std.LawfulEqOrd.eq_of_compare h
    cases a; cases b; simp_all

instance : Std.TransOrd TagId where
  eq_swap := Std.OrientedOrd.eq_swap (α := Int64)
  isLE_trans := Std.TransOrd.isLE_trans (α := Int64)

end TagId

end AudioLibrary
