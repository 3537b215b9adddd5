/-!
# Finite sets in ascending order

A `SortedSet` is a strictly ascending list, so two sets with the same members are equal.  The order
is the type's `compare`.

## Main statements

* `SortedSet.mem_insert`, `SortedSet.mem_erase`, `SortedSet.mem_ofList` say what the operations do
  to the members.
* `SortedSet.ext` shows that the members determine the set.
-/

namespace AudioLibrary

/-- A strictly ascending list. -/
structure SortedSet (α : Type) [Ord α] where
  toList : List α
  ascending : toList.Pairwise fun a b => compare a b = .lt

namespace SortedSet

variable {α : Type} [Ord α]

instance [DecidableEq α] : DecidableEq (SortedSet α) := fun s t =>
  decidable_of_iff (s.toList = t.toList) ⟨fun h => by cases s; cases t; simp_all, fun h => h ▸ rfl⟩

instance [Repr α] : Repr (SortedSet α) := ⟨fun s n => reprPrec s.toList n⟩

def empty : SortedSet α := ⟨[], .nil⟩

instance : EmptyCollection (SortedSet α) := ⟨empty⟩

instance : Inhabited (SortedSet α) := ⟨empty⟩

instance : Membership α (SortedSet α) := ⟨fun s a => a ∈ s.toList⟩

def isEmpty (s : SortedSet α) : Bool := s.toList.isEmpty

def size (s : SortedSet α) : Nat := s.toList.length

instance [DecidableEq α] (a : α) (s : SortedSet α) : Decidable (a ∈ s) :=
  inferInstanceAs (Decidable (a ∈ s.toList))

theorem mem_def {a : α} {s : SortedSet α} : a ∈ s ↔ a ∈ s.toList := Iff.rfl

@[simp] theorem not_mem_empty (a : α) : a ∉ (∅ : SortedSet α) := List.not_mem_nil

/-! ## Inserting -/

/-- An ascending list with one more member. -/
def insertInto (a : α) : List α → List α
  | [] => [a]
  | b :: bs =>
      match compare a b with
      | .lt => a :: b :: bs
      | .eq => a :: bs
      | .gt => b :: insertInto a bs

variable [Std.LawfulEqOrd α]

theorem mem_insertInto {a x : α} {s : List α} : x ∈ insertInto a s ↔ x = a ∨ x ∈ s := by
  induction s with
  | nil => simp [insertInto]
  | cons b bs ih =>
      unfold insertInto
      split
      · simp
      · next h =>
          have : a = b := Std.LawfulEqOrd.eq_of_compare h
          simp [this]
      · simp only [List.mem_cons, ih]
        constructor
        · rintro (h | h | h) <;> simp [h]
        · rintro (h | h | h) <;> simp [h]

variable [Std.TransOrd α]

theorem pairwise_insertInto {a : α} {s : List α}
    (h : s.Pairwise fun a b => compare a b = .lt) :
    (insertInto a s).Pairwise fun a b => compare a b = .lt := by
  induction s with
  | nil => simp [insertInto]
  | cons b bs ih =>
      have hb := List.pairwise_cons.1 h
      unfold insertInto
      split
      · next hlt =>
          refine List.pairwise_cons.2 ⟨?_, h⟩
          intro x hx
          rcases List.mem_cons.1 hx with rfl | hx
          · exact hlt
          · exact Std.TransCmp.lt_trans hlt (hb.1 x hx)
      · next heq =>
          have : a = b := Std.LawfulEqOrd.eq_of_compare heq
          exact this ▸ h
      · next hgt =>
          refine List.pairwise_cons.2 ⟨?_, ih hb.2⟩
          intro x hx
          rcases mem_insertInto.1 hx with rfl | hx
          · exact Std.OrientedCmp.lt_of_gt hgt
          · exact hb.1 x hx

/-- The set with one more member. -/
def insert (a : α) (s : SortedSet α) : SortedSet α :=
  ⟨insertInto a s.toList, pairwise_insertInto s.ascending⟩

@[simp] theorem mem_insert {a x : α} {s : SortedSet α} : x ∈ s.insert a ↔ x = a ∨ x ∈ s :=
  mem_insertInto

/-- The set of a list's members. -/
def ofList (xs : List α) : SortedSet α := xs.foldl (fun s a => s.insert a) ∅

theorem mem_foldl_insert {x : α} {xs : List α} {s : SortedSet α} :
    x ∈ xs.foldl (fun s a => s.insert a) s ↔ x ∈ xs ∨ x ∈ s := by
  induction xs generalizing s with
  | nil => simp
  | cons a xs ih =>
      simp only [List.foldl_cons, ih, mem_insert, List.mem_cons]
      constructor
      · rintro (h | h | h) <;> simp [h]
      · rintro ((h | h) | h) <;> simp [h]

@[simp] theorem mem_ofList {x : α} {xs : List α} : x ∈ ofList xs ↔ x ∈ xs := by
  simp [ofList, mem_foldl_insert]

omit [Std.TransOrd α] in
theorem nodup_toList (s : SortedSet α) : s.toList.Nodup :=
  s.ascending.imp fun {a b} h hab => by
    subst hab
    rw [Std.LawfulEqOrd.compare_eq_iff_eq.2 rfl] at h
    simp at h

/-! ## Erasing -/

/-- The set without a member. -/
def erase [DecidableEq α] (a : α) (s : SortedSet α) : SortedSet α :=
  ⟨s.toList.filter (· ≠ a), s.ascending.filter _⟩

omit [Std.LawfulEqOrd α] [Std.TransOrd α] in
@[simp] theorem mem_erase [DecidableEq α] {a x : α} {s : SortedSet α} :
    x ∈ s.erase a ↔ x ∈ s ∧ x ≠ a := by
  simp [erase, mem_def]

/-- The set without the member, or with it if it is not there. -/
def toggle [DecidableEq α] (a : α) (s : SortedSet α) : SortedSet α :=
  if a ∈ s then s.erase a else s.insert a

/-! ## Extensionality -/

private theorem eq_of_same_members {s t : List α}
    (hs : s.Pairwise fun a b => compare a b = .lt) (ht : t.Pairwise fun a b => compare a b = .lt)
    (h : ∀ x, x ∈ s ↔ x ∈ t) : s = t := by
  have irrefl : ∀ a : α, compare a a ≠ .lt := fun a ha => by
    rw [Std.LawfulEqOrd.compare_eq_iff_eq.2 rfl] at ha
    simp at ha
  induction s generalizing t with
  | nil =>
      cases t with
      | nil => rfl
      | cons b t => exact absurd ((h b).2 (by simp)) (by simp)
  | cons a s ih =>
      cases t with
      | nil => exact absurd ((h a).1 (by simp)) (by simp)
      | cons b t =>
          have hs' := List.pairwise_cons.1 hs
          have ht' := List.pairwise_cons.1 ht
          have hab : a = b := by
            rcases List.mem_cons.1 ((h a).1 (by simp)) with hab | ha
            · exact hab
            · rcases List.mem_cons.1 ((h b).2 (by simp)) with hba | hb
              · exact hba.symm
              · exact absurd (Std.TransCmp.lt_trans (hs'.1 b hb) (ht'.1 a ha)) (irrefl a)
          subst hab
          congr 1
          refine ih hs'.2 ht'.2 fun x => ?_
          constructor
          · intro hx
            rcases List.mem_cons.1 ((h x).1 (by simp [hx])) with rfl | hx'
            · exact absurd (hs'.1 x hx) (irrefl x)
            · exact hx'
          · intro hx
            rcases List.mem_cons.1 ((h x).2 (by simp [hx])) with rfl | hx'
            · exact absurd (ht'.1 x hx) (irrefl x)
            · exact hx'

/-- Sets with the same members are equal. -/
@[ext] theorem ext {s t : SortedSet α} (h : ∀ x, x ∈ s ↔ x ∈ t) : s = t := by
  cases s with
  | mk s hs =>
      cases t with
      | mk t ht =>
          congr 1
          exact eq_of_same_members hs ht h

theorem ofList_toList (s : SortedSet α) : ofList s.toList = s :=
  ext fun _ => mem_ofList

theorem mem_toggle [DecidableEq α] {a x : α} {s : SortedSet α} :
    x ∈ s.toggle a ↔ (x ∈ s ∧ x ≠ a) ∨ (x = a ∧ x ∉ s) := by
  unfold toggle
  split
  · next h =>
      simp only [mem_erase]
      constructor
      · exact Or.inl
      · rintro (h' | ⟨rfl, h'⟩)
        · exact h'
        · exact absurd h h'
  · next h =>
      simp only [mem_insert]
      constructor
      · rintro (rfl | h')
        · exact Or.inr ⟨rfl, h⟩
        · exact Or.inl ⟨h', fun hx => h (hx ▸ h')⟩
      · rintro (h' | h')
        · exact Or.inr h'.1
        · exact Or.inl h'.1

/-- Toggling twice changes nothing. -/
theorem toggle_toggle [DecidableEq α] (a : α) (s : SortedSet α) : (s.toggle a).toggle a = s := by
  ext x
  simp only [mem_toggle]
  by_cases hx : x = a <;> by_cases hs : x ∈ s <;> simp_all

end SortedSet

end AudioLibrary
