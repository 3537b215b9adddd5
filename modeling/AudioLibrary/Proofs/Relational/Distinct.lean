import AudioLibrary.Proofs.Relational.Condition
import Mathlib.Data.List.Nodup

/-!
# Keeping one of those that are the same

A statement drops repeated values and, of a group of rows, keeps the first.  Both are
`List.eraseDupsBy`, and what is needed of it is said here once, for a comparison that looks at one
thing `f` only: the result is part of the list, has every value of `f`, and each once.

Values of one relation are numbers, for which being the same is being equal.
-/

namespace AudioLibrary.Relational

section EraseDups

variable {α β : Type} {r : α → α → Bool} {f : α → β}

/-- Induction along the recursion: what follows a member is looked at without those that are the
same. -/
theorem eraseDups_induction (r : α → α → Bool) {motive : List α → Prop} (nil : motive [])
    (cons : ∀ a l, motive (l.filter fun b => r b a = false) → motive (a :: l)) :
    ∀ l, motive l
  | [] => nil
  | a :: l => cons a l (eraseDups_induction r nil cons _)
termination_by l => l.length
decreasing_by exact Nat.lt_succ_of_le (List.length_filter_le _ _)

theorem eraseDupsBy_sublist (r : α → α → Bool) (l : List α) : (l.eraseDupsBy r).Sublist l := by
  induction l using eraseDups_induction r with
  | nil => exact List.Sublist.refl _
  | cons a l ih =>
      rw [List.eraseDupsBy_cons]
      exact (ih.trans List.filter_sublist).cons_cons a

/-- Every member is kept, or one that is the same. -/
theorem exists_same_mem_eraseDupsBy (r : α → α → Bool) (l : List α) :
    ∀ a ∈ l, ∃ b ∈ l.eraseDupsBy r, a = b ∨ r a b = true := by
  induction l using eraseDups_induction r with
  | nil => simp
  | cons a l ih =>
      rw [List.eraseDupsBy_cons]
      intro b hb
      rcases List.mem_cons.1 hb with rfl | hb
      · exact ⟨b, List.mem_cons_self, Or.inl rfl⟩
      · cases hsame : r b a with
        | true => exact ⟨a, List.mem_cons_self, Or.inr hsame⟩
        | false =>
            obtain ⟨c, hc, hkept⟩ := ih b (List.mem_filter.2 ⟨hb, decide_eq_true hsame⟩)
            exact ⟨c, List.mem_cons_of_mem a hc, hkept⟩

/-- What the comparison looks at occurs once in the result. -/
theorem nodup_map_eraseDupsBy {l : List α}
    (h : ∀ a ∈ l, ∀ b ∈ l, (r a b = true ↔ f a = f b)) : ((l.eraseDupsBy r).map f).Nodup := by
  induction l using eraseDups_induction r with
  | nil => exact List.nodup_nil
  | cons a l ih =>
      have hsub : (l.filter fun b => r b a = false) ⊆ a :: l :=
        fun b hb => List.mem_cons_of_mem a (List.mem_filter.1 hb).1
      rw [List.eraseDupsBy_cons, List.map_cons, List.nodup_cons]
      refine ⟨?_, ih fun b hb c hc => h b (hsub hb) c (hsub hc)⟩
      intro hmem
      obtain ⟨b, hb, heq⟩ := List.mem_map.1 hmem
      have hb := List.mem_filter.1 ((eraseDupsBy_sublist r _).subset hb)
      have hsame := (h b (List.mem_cons_of_mem a hb.1) a (List.mem_cons_self ..)).2 heq
      simp [hsame] at hb

/-- What the comparison looks at is not lost. -/
theorem exists_mem_eraseDupsBy {l : List α}
    (h : ∀ a ∈ l, ∀ b ∈ l, (r a b = true ↔ f a = f b)) :
    ∀ a ∈ l, ∃ b ∈ l.eraseDupsBy r, f b = f a := by
  induction l using eraseDups_induction r with
  | nil => simp
  | cons a l ih =>
      have hsub : (l.filter fun b => r b a = false) ⊆ a :: l :=
        fun b hb => List.mem_cons_of_mem a (List.mem_filter.1 hb).1
      rw [List.eraseDupsBy_cons]
      intro b hb
      by_cases hsame : f b = f a
      · exact ⟨a, List.mem_cons_self .., hsame.symm⟩
      · rcases List.mem_cons.1 hb with rfl | hbl
        · exact absurd rfl hsame
        · have hdiffers : r b a = false := by
            rw [← Bool.not_eq_true, h b hb a (List.mem_cons_self ..)]
            exact hsame
          obtain ⟨c, hc, heq⟩ := ih (fun b hb c hc => h b (hsub hb) c (hsub hc)) b
            (List.mem_filter.2 ⟨hbl, by simpa using hdiffers⟩)
          exact ⟨c, List.mem_cons_of_mem a hc, heq⟩

end EraseDups

/-! ## What was there before -/

section Seen

variable {α β : Type} {r : β → β → Bool}

/-- What is kept is the first that is the same. -/
theorem find?_of_mem_eraseDupsBy (htrans : ∀ a b c, r a b = true → r b c = true → r a c = true)
    (hrefl : ∀ a, r a a = true) {b : β} {l : List β} (h : b ∈ l.eraseDupsBy r) :
    l.find? (r b) = some b := by
  induction l using eraseDups_induction r with
  | nil => exact absurd h List.not_mem_nil
  | cons a l ih =>
      rw [List.eraseDupsBy_cons] at h
      rcases List.mem_cons.1 h with rfl | h
      · exact List.find?_cons_of_pos (hrefl b)
      · obtain ⟨-, hba⟩ := List.mem_filter.1 ((eraseDupsBy_sublist r _).subset h)
        have hba : r b a = false := of_decide_eq_true hba
        have hpassed : ∀ c, r b c = true → r c a = false := by
          intro c hbc
          rw [← Bool.not_eq_true] at hba ⊢
          exact fun hca => hba (htrans b c a hbc hca)
        have hfirst := ih h
        rw [List.find?_filter] at hfirst
        rw [List.find?_cons_of_neg (by rw [hba]; exact Bool.false_ne_true), ← hfirst]
        refine congrArg (fun p => l.find? p) (funext fun c => Bool.eq_iff_iff.2 ?_)
        simpa using hpassed c

/-- What is the same as something in front of it is not kept, and counts for nothing. -/
theorem eraseDupsBy_append_seen (htrans : ∀ a b c, r a b = true → r b c = true → r a c = true)
    (as bs cs : List β) (h : ∀ b ∈ bs, ∃ a ∈ as, r b a = true) :
    (as ++ bs ++ cs).eraseDupsBy r = (as ++ cs).eraseDupsBy r := by
  induction as using eraseDups_induction r generalizing bs cs with
  | nil =>
      have hnone : bs = [] := List.eq_nil_iff_forall_not_mem.2 fun b hb => by
        obtain ⟨a, ha, -⟩ := h b hb
        exact List.not_mem_nil ha
      rw [hnone, List.append_nil]
  | cons a as ih =>
      rw [List.cons_append, List.cons_append, List.cons_append, List.eraseDupsBy_cons,
        List.eraseDupsBy_cons, List.filter_append, List.filter_append, List.filter_append]
      refine congrArg (a :: ·) (ih _ _ fun b hb => ?_)
      obtain ⟨hb, hba⟩ := List.mem_filter.1 hb
      have hba : r b a = false := of_decide_eq_true hba
      obtain ⟨c, hc, hbc⟩ := h b hb
      rcases List.mem_cons.1 hc with rfl | hc
      · rw [hba] at hbc
        cases hbc
      · cases hca : r c a with
        | false => exact ⟨c, List.mem_filter.2 ⟨hc, decide_eq_true hca⟩, hbc⟩
        | true =>
            rw [htrans b c a hbc hca] at hba
            cases hba

variable [BEq α] [LawfulBEq α] {g : α → List β}

/-- What comes of members that were there before is not kept again. -/
theorem eraseDupsBy_flatMap_append (htrans : ∀ a b c, r a b = true → r b c = true → r a c = true)
    (hrefl : ∀ a, r a a = true) (seen l : List α) :
    ((seen ++ l).flatMap g).eraseDupsBy r =
      ((seen ++ (l.filter fun a => !seen.contains a).eraseDups).flatMap g).eraseDupsBy r := by
  induction l generalizing seen with
  | nil => rfl
  | cons a l ih =>
      by_cases ha : a ∈ seen
      · have hdropped : ((seen ++ a :: l).flatMap g).eraseDupsBy r =
            ((seen ++ l).flatMap g).eraseDupsBy r := by
          rw [List.flatMap_append, List.flatMap_cons, ← List.append_assoc,
            eraseDupsBy_append_seen htrans, ← List.flatMap_append]
          exact fun b hb => ⟨b, List.mem_flatMap.2 ⟨a, ha, hb⟩, hrefl b⟩
        rw [hdropped, ih, List.filter_cons_of_neg (by simpa using ha)]
      · have hrest : (l.filter fun b => !(seen ++ [a]).contains b) =
            (l.filter fun b => !seen.contains b).filter fun b => !b == a := by
          rw [List.filter_filter]
          refine List.filter_congr fun b _ => Bool.eq_iff_iff.2 ?_
          simp [and_comm]
        have hstep := ih (seen ++ [a])
        rw [hrest, ← List.append_cons, ← List.append_cons] at hstep
        rw [List.filter_cons_of_pos (by simpa using ha), List.eraseDups_cons]
        exact hstep

/-- Of what is put together from the members of a list only the first of equal members count. -/
theorem eraseDupsBy_flatMap_eraseDups
    (htrans : ∀ a b c, r a b = true → r b c = true → r a c = true) (hrefl : ∀ a, r a a = true)
    (l : List α) :
    (l.flatMap g).eraseDupsBy r = (l.eraseDups.flatMap g).eraseDupsBy r := by
  have hall : l.filter (fun a => !([] : List α).contains a) = l :=
    List.filter_eq_self.2 fun _ _ => rfl
  have hseen := eraseDupsBy_flatMap_append (g := g) htrans hrefl [] l
  rwa [hall] at hseen

end Seen

/-! ## Numbers -/

/-- Whether all values of a list are numbers of rows. -/
def AllNumbers (vs : List Value) : Prop := ∀ v ∈ vs, ∃ i, v = .integer i

theorem AllNumbers.same_iff {vs : List Value} (h : AllNumbers vs) :
    ∀ v ∈ vs, ∀ w ∈ vs, (v.same w = true ↔ v = w) := by
  intro v hv w hw
  obtain ⟨i, rfl⟩ := h v hv
  obtain ⟨j, rfl⟩ := h w hw
  simp [same_integer]

theorem AllNumbers.nodup_distinctValues {vs : List Value} (h : AllNumbers vs) :
    (distinctValues vs).Nodup := by
  have hnodup := nodup_map_eraseDupsBy (f := id) h.same_iff
  rwa [List.map_id] at hnodup

theorem AllNumbers.mem_distinctValues {vs : List Value} (h : AllNumbers vs) {v : Value} :
    v ∈ distinctValues vs ↔ v ∈ vs := by
  constructor
  · intro hv
    exact (eraseDupsBy_sublist _ vs).subset hv
  · intro hv
    obtain ⟨w, hw, rfl⟩ := exists_mem_eraseDupsBy (f := id) h.same_iff v hv
    exact hw

/-- Counting different numbers leaves none out. -/
theorem AllNumbers.countDistinct_eq {vs : List Value} (h : AllNumbers vs) :
    countDistinct vs = (distinctValues vs).length := by
  unfold countDistinct
  congr 2
  refine List.filter_eq_self.2 fun v hv => ?_
  obtain ⟨i, rfl⟩ := h v hv
  rfl

end AudioLibrary.Relational
