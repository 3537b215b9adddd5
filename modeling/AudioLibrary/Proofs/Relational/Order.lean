import AudioLibrary.Proofs.Number.Double
import AudioLibrary.Proofs.Text.Folding
import AudioLibrary.Relational.Eval

/-!
# The order of values

Values that equal themselves are totally preordered, by either collation: they are compared by kind
and then by one thing that the kind has, a number in units of `2 ^ -1074`, a text or bytes.
`keyOrder` compares so, and agrees with `Value.compareBy` on all but not-a-numbers, which `keyOrder`
puts somewhere and `compareBy` nowhere.

Texts compared without letter case stop at a U+0000 that both share, and from there on only their
lengths count.  That is a comparison of two things as well: of the folded text up to that, and of
the length of the rest.

## Main statements

* `compareBy_eq_keyOrder` : the order of values is an order by keys.
* `compareKeys_map` : so is the order of rows under a list of keys, `rowOrder`.
-/

namespace AudioLibrary

open Std

/-! ## Texts without letter case -/

namespace Text

/-- A folded text up to its first U+0000, that included. -/
def foldedHead : List Char → List Char
  | [] => []
  | c :: s => if c = '\x00' then [c] else c.toLower :: foldedHead s

/-- The length of what follows the first U+0000. -/
def lengthPastNul : List Char → Nat
  | [] => 0
  | c :: s => if c = '\x00' then byteLength s else lengthPastNul s

theorem exists_foldedHead_cons (c : Char) (s : List Char) :
    ∃ d rest, foldedHead (c :: s) = d :: rest := by
  unfold foldedHead
  split <;> exact ⟨_, _, rfl⟩

theorem compareIgnoringCase_eq (s t : List Char) :
    compareIgnoringCase s t =
      compareLex (compareOn foldedHead) (compareOn lengthPastNul) s t := by
  unfold compareLex compareOn
  induction s generalizing t with
  | nil =>
      cases t with
      | nil => rfl
      | cons d t =>
          obtain ⟨e, rest, hhead⟩ := exists_foldedHead_cons d t
          rw [hhead]
          rfl
  | cons c s ih =>
      cases t with
      | nil =>
          obtain ⟨e, rest, hhead⟩ := exists_foldedHead_cons c s
          rw [hhead]
          rfl
      | cons d t =>
          have hnul : ∀ e : Char, e.toLower = '\x00' ↔ e = '\x00' :=
            fun e => toLower_eq_iff_of_lt (by decide)
          have hcons : ∀ (x y : Char) (xs ys : List Char),
              compare (x :: xs) (y :: ys) = (compare x y).then (compare xs ys) :=
            fun x y xs ys => List.compareLex_cons_cons
          unfold compareIgnoringCase foldedHead lengthPastNul
          -- a U+0000 ends what is compared as letters, on either side or on both
          by_cases hc : c = '\x00' <;> by_cases hd : d = '\x00'
          · subst hc hd
            simp only [and_self, if_true]
            rw [ReflOrd.compare_self]
            rfl
          · have hne : compare '\x00' d.toLower ≠ .eq := fun h =>
              hd ((hnul d).1 (LawfulEqOrd.eq_of_compare h).symm)
            subst hc
            simp only [hd, and_false, if_false, if_true, hcons]
            have hlower : ('\x00').toLower = '\x00' := rfl
            rw [hlower]
            cases hcmp : compare '\x00' d.toLower with
            | eq => exact absurd hcmp hne
            | lt | gt => rfl
          · have hne : compare c.toLower '\x00' ≠ .eq := fun h =>
              hc ((hnul c).1 (LawfulEqOrd.eq_of_compare h))
            subst hd
            simp only [hc, false_and, if_false, if_true, hcons]
            have hlower : ('\x00').toLower = '\x00' := rfl
            rw [hlower]
            cases hcmp : compare c.toLower '\x00' with
            | eq => exact absurd hcmp hne
            | lt | gt => rfl
          · simp only [hc, hd, and_self, if_false, hcons, ih]
            rw [Ordering.then_assoc]

instance : TransCmp compareIgnoringCase := by
  have heq : compareIgnoringCase =
      compareLex (compareOn foldedHead) (compareOn lengthPastNul) := by
    funext s t
    exact compareIgnoringCase_eq s t
  rw [heq]
  infer_instance

end Text

/-! ## Values -/

/-- Comparing by what a function gives. -/
instance transCmp_comap {α β : Type} (cmp : β → β → Ordering) [TransCmp cmp] (f : α → β) :
    TransCmp fun a b => cmp (f a) (f b) where
  eq_swap {a b} := @OrientedCmp.eq_swap β cmp _ (f a) (f b)
  isLE_trans {a b c} := @TransCmp.isLE_trans β cmp _ (f a) (f b) (f c)

namespace Value

instance (c : Collation) : TransCmp c.compare :=
  match c with
  | .binary => inferInstanceAs (TransOrd String)
  | .noCase => transCmp_comap Text.compareIgnoringCase String.toList

/-- A number in units of `2 ^ -1074`. -/
def scaled : Value → Int
  | integer i => i.toInt * Number.Double.unitsPerOne
  | real x => x.scaled
  | _ => 0

def textOr : Value → String
  | text s => s
  | _ => ""

def bytesOr : Value → List UInt8
  | blob bytes => bytes
  | _ => []

/-- The order of values: by kind first, then by what the kind has. -/
def keyOrder (c : Collation) : Value → Value → Ordering :=
  compareLex (compareOn kindRank)
    (compareLex (compareOn scaled)
      (compareLex (fun v w => c.compare v.textOr w.textOr) (compareOn bytesOr)))

instance (c : Collation) : TransCmp (keyOrder c) := by
  unfold keyOrder
  infer_instance

theorem natAbs_toInt_le (i : Int64) : i.toInt.natAbs ≤ 2 ^ 63 := by
  have hle := i.le_toInt
  have hlt := i.toInt_lt
  omega

theorem compare_int64 (i j : Int64) : compare i j = compare i.toInt j.toInt := by
  show compareOfLessAndEq i j = compareOfLessAndEq i.toInt j.toInt
  unfold compareOfLessAndEq
  simp only [Int64.lt_iff_toInt_lt, Int64.toInt_inj]

theorem compareBy_of_kindRank_ne (c : Collation) {v w : Value} (h : v.kindRank ≠ w.kindRank) :
    compareBy c v w = compare v.kindRank w.kindRank := by
  cases v <;> cases w <;> first | rfl | exact absurd rfl h

/-- Turning a comparison round turns its outcome round, also where a not-a-number is compared. -/
theorem compareBy_swap (c : Collation) (v w : Value) :
    compareBy c v w = (compareBy c w v).swap := by
  by_cases hkind : v.kindRank = w.kindRank
  · have hmixed : ∀ o : Option Ordering, (o.map Ordering.swap).getD .eq = (o.getD .eq).swap := by
      intro o
      cases o <;> rfl
    have hreals : ∀ x y : Number.Double,
        (x.compare? y).getD .eq = ((y.compare? x).getD .eq).swap := by
      intro x y
      unfold Number.Double.compare?
      rw [Bool.or_comm y.isNaN]
      split
      · rfl
      · exact OrientedOrd.eq_swap
    cases v with
    | null =>
        cases w with
        | null => rfl
        | integer | real | text | blob => simp [kindRank] at hkind
    | integer i =>
        cases w with
        | integer j => exact OrientedOrd.eq_swap
        | real y => exact hmixed _
        | null | text | blob => simp [kindRank] at hkind
    | real x =>
        cases w with
        | integer j => rw [compareBy, compareBy, hmixed, Ordering.swap_swap]
        | real y => exact hreals x y
        | null | text | blob => simp [kindRank] at hkind
    | text s =>
        cases w with
        | text t => exact @OrientedCmp.eq_swap _ c.compare _ s t
        | null | integer | real | blob => simp [kindRank] at hkind
    | blob a =>
        cases w with
        | blob b => exact OrientedOrd.eq_swap
        | null | integer | real | text => simp [kindRank] at hkind
  · rw [compareBy_of_kindRank_ne c hkind, compareBy_of_kindRank_ne c (Ne.symm hkind)]
    exact OrientedOrd.eq_swap

theorem same_comm (v w : Value) : v.same w = w.same v := by
  unfold same
  rw [compareBy_swap]
  cases compareBy .binary w v <;> rfl

theorem compareBy_numbers {v w : Value} (c : Collation) (hv : v.equalsItself = true)
    (hw : w.equalsItself = true) (hvkind : v.kindRank = 1) (hwkind : w.kindRank = 1) :
    compareBy c v w = compare v.scaled w.scaled := by
  have hunit : (0 : Int) < Number.Double.unitsPerOne := by
    exact_mod_cast Number.Double.unitsPerOne_pos
  cases v with
  | null | text | blob => exact absurd hvkind (by simp [kindRank])
  | integer i =>
      cases w with
      | null | text | blob => exact absurd hwkind (by simp [kindRank])
      | integer j =>
          rw [scaled, scaled, Number.compare_mul_right _ _ hunit, compareBy]
          exact compare_int64 i j
      | real y =>
          rw [compareBy, Number.Double.compareInt?_eq hw (natAbs_toInt_le i), Option.map_some,
            Option.getD_some, scaled, scaled, ← OrientedOrd.eq_swap]
  | real x =>
      cases w with
      | null | text | blob => exact absurd hwkind (by simp [kindRank])
      | integer j =>
          rw [compareBy, Number.Double.compareInt?_eq hv (natAbs_toInt_le j), Option.getD_some]
          rfl
      | real y =>
          rw [compareBy, Number.Double.compare?_eq hv hw, Option.getD_some]
          rfl

/-- **The order of values is an order by keys**, not-a-numbers aside. -/
theorem compareBy_eq_keyOrder (c : Collation) {v w : Value} (hv : v.equalsItself = true)
    (hw : w.equalsItself = true) : compareBy c v w = keyOrder c v w := by
  by_cases hkind : v.kindRank = w.kindRank
  · have hself : compare v.kindRank w.kindRank = .eq := by
      rw [hkind]
      exact ReflOrd.compare_self
    have hempty : ∀ v w : Value, v.textOr = "" → w.textOr = "" →
        c.compare v.textOr w.textOr = .eq := by
      intro v w hv hw
      rw [hv, hw]
      exact ReflCmp.compare_self
    -- within a kind every key but one is the same for all values
    unfold keyOrder compareLex compareOn
    dsimp only
    rw [hself, Ordering.eq_then]
    cases v with
    | null =>
        cases w with
        | null =>
            rw [hempty null null rfl rfl]
            rfl
        | integer | real | text | blob => simp [kindRank] at hkind
    | integer i =>
        cases w with
        | integer | real =>
            rw [compareBy_numbers c hv hw rfl rfl, hempty (integer i) _ rfl rfl]
            exact (Ordering.then_eq).symm
        | null | text | blob => simp [kindRank] at hkind
    | real x =>
        cases w with
        | integer | real =>
            rw [compareBy_numbers c hv hw rfl rfl, hempty (real x) _ rfl rfl]
            exact (Ordering.then_eq).symm
        | null | text | blob => simp [kindRank] at hkind
    | text s =>
        cases w with
        | text t => exact (Ordering.then_eq).symm
        | null | integer | real | blob => simp [kindRank] at hkind
    | blob a =>
        cases w with
        | blob b =>
            rw [hempty (blob a) (blob b) rfl rfl]
            rfl
        | null | integer | real | text => simp [kindRank] at hkind
  · have hne : compare v.kindRank w.kindRank ≠ .eq := fun h =>
      hkind (LawfulEqOrd.eq_of_compare h)
    rw [compareBy_of_kindRank_ne c hkind]
    unfold keyOrder compareLex compareOn
    cases hcmp : compare v.kindRank w.kindRank with
    | eq => exact absurd hcmp hne
    | lt | gt => rfl

end Value

/-! ## Rows -/

namespace Relational

/-- The order of two values under one key. -/
def OrderKey.keyOrder (k : OrderKey) (v w : Value) : Ordering :=
  match k.direction with
  | some .descending => Value.keyOrder k.collation w v
  | _ => Value.keyOrder k.collation v w

instance (k : OrderKey) : TransCmp k.keyOrder := by
  rcases k with ⟨term, collation, direction⟩
  rcases direction with _ | _ | _
  · exact inferInstanceAs (TransCmp (Value.keyOrder collation))
  · exact inferInstanceAs (TransCmp (Value.keyOrder collation))
  · exact inferInstanceAs (TransCmp fun v w => Value.keyOrder collation w v)

theorem OrderKey.compare_eq_keyOrder (k : OrderKey) {v w : Value} (hv : v.equalsItself = true)
    (hw : w.equalsItself = true) : k.compare v w = k.keyOrder v w := by
  rcases k with ⟨term, collation, direction⟩
  rcases direction with _ | _ | _
  · exact Value.compareBy_eq_keyOrder collation hv hw
  · exact Value.compareBy_eq_keyOrder collation hv hw
  · exact Value.compareBy_eq_keyOrder collation hw hv

/-- Different numbers of rows are told apart. -/
theorem OrderKey.eq_of_keyOrder_integers {k : OrderKey} {i j : Int64}
    (h : k.keyOrder (.integer i) (.integer j) = .eq) : i = j := by
  rw [← k.compare_eq_keyOrder rfl rfl] at h
  unfold OrderKey.compare at h
  split at h
  · exact (LawfulEqOrd.eq_of_compare h).symm
  · exact LawfulEqOrd.eq_of_compare h

section RowOrder

variable {α : Type}

/-- The order of things by the values that they have under each key. -/
def rowOrder (value : OrderKey → α → Value) : List OrderKey → α → α → Ordering
  | [] => fun _ _ => .eq
  | k :: ks => compareLex (fun a b => k.keyOrder (value k a) (value k b)) (rowOrder value ks)

instance (value : OrderKey → α → Value) (ks : List OrderKey) : TransCmp (rowOrder value ks) := by
  induction ks with
  | nil => exact { eq_swap := rfl, isLE_trans := fun _ _ => rfl }
  | cons k ks ih =>
      unfold rowOrder
      infer_instance

theorem rowOrder_append (value : OrderKey → α → Value) (ks ls : List OrderKey) (a b : α) :
    rowOrder value (ks ++ ls) a b = (rowOrder value ks a b).then (rowOrder value ls a b) := by
  induction ks with
  | nil => rfl
  | cons k ks ih =>
      rw [List.cons_append, rowOrder, rowOrder, compareLex, compareLex, ih, Ordering.then_assoc]

theorem rowOrder_congr {β : Type} {value : OrderKey → α → Value} {value' : OrderKey → β → Value}
    {ks : List OrderKey} {a b : α} {a' b' : β} (ha : ∀ k ∈ ks, value k a = value' k a')
    (hb : ∀ k ∈ ks, value k b = value' k b') :
    rowOrder value ks a b = rowOrder value' ks a' b' := by
  induction ks with
  | nil => rfl
  | cons k ks ih =>
      rw [rowOrder, rowOrder, compareLex, compareLex, ha k (List.mem_cons_self ..),
        hb k (List.mem_cons_self ..), ih (fun l hl => ha l (List.mem_cons_of_mem k hl))
          fun l hl => hb l (List.mem_cons_of_mem k hl)]

/-- Things that are tied are tied under each key. -/
theorem keyOrder_eq_of_rowOrder_eq {value : OrderKey → α → Value} {ks : List OrderKey} {a b : α}
    (h : rowOrder value ks a b = .eq) : ∀ k ∈ ks, k.keyOrder (value k a) (value k b) = .eq := by
  induction ks with
  | nil => simp
  | cons k ks ih =>
      obtain ⟨hk, hks⟩ := Ordering.then_eq_eq.1 h
      intro l hl
      rcases List.mem_cons.1 hl with rfl | hl
      · exact hk
      · exact ih hks l hl

/-- **The order under a list of keys is an order by keys**, not-a-numbers aside. -/
theorem compareKeys_map {value : OrderKey → α → Value} {ks : List OrderKey} {a b : α}
    (ha : ∀ k ∈ ks, (value k a).equalsItself = true)
    (hb : ∀ k ∈ ks, (value k b).equalsItself = true) :
    compareKeys ks (ks.map fun k => value k a) (ks.map fun k => value k b) =
      rowOrder value ks a b := by
  induction ks with
  | nil => rfl
  | cons k ks ih =>
      rw [List.map_cons, List.map_cons, compareKeys, rowOrder, compareLex,
        k.compare_eq_keyOrder (ha k (List.mem_cons_self ..)) (hb k (List.mem_cons_self ..)),
        ih (fun l hl => ha l (List.mem_cons_of_mem k hl))
          fun l hl => hb l (List.mem_cons_of_mem k hl)]

end RowOrder

/-! ## Sorting -/

section Sorting

variable {α : Type} {cmp : α → α → Ordering} {le le' : α → α → Bool} {l : List α}

/-- Statements sort by what does not come after, which is what comes before or is tied. -/
theorem bne_gt_eq_isLE (o : Ordering) : (o != .gt) = o.isLE := by
  cases o <;> rfl

/-- Sorting looks at the members of a list only. -/
theorem mergeSort_congr (h : ∀ a ∈ l, ∀ b ∈ l, le a b = le' a b) :
    l.mergeSort le = l.mergeSort le' := by
  have hmap := List.map_mergeSort (s := le') (f := id) (l := l) h
  rwa [List.map_id, List.map_id] at hmap

/-- Sorting by a comparison that is an order on the members of a list sorts the list. -/
theorem pairwise_mergeSort_of_eq [TransCmp cmp]
    (hle : ∀ a ∈ l, ∀ b ∈ l, le a b = (cmp a b).isLE) :
    (l.mergeSort le).Pairwise fun a b => (cmp a b).isLE = true := by
  rw [mergeSort_congr hle]
  refine List.pairwise_mergeSort (fun a b c => TransCmp.isLE_trans) (fun a b => ?_) l
  rw [@OrientedCmp.eq_swap α cmp _ b a]
  cases cmp a b <;> rfl

/-- Two sorted arrangements of a list that has no ties are the same. -/
theorem eq_of_perm_of_sorted [TransCmp cmp] {l l' : List α}
    (hl : l.Pairwise fun a b => (cmp a b).isLE = true)
    (hl' : l'.Pairwise fun a b => (cmp a b).isLE = true) (hperm : l.Perm l')
    (hties : ∀ a ∈ l, ∀ b ∈ l, cmp a b = .eq → a = b) : l = l' := by
  refine hperm.eq_of_pairwise ?_ hl hl'
  intro a b ha hb hab hba
  refine hties a ha b (hperm.mem_iff.2 hb) ?_
  rw [@OrientedCmp.eq_swap α cmp _ b a] at hba
  cases hcmp : cmp a b with
  | eq => rfl
  | lt => simp [hcmp] at hba
  | gt => simp [hcmp] at hab

end Sorting

end Relational

end AudioLibrary
