import AudioLibrary.Proofs.Json.Documents

/-!
# Typed values, written and read

Readers of records and lists read back what is written for them, field by field and item by item.
-/

namespace AudioLibrary.Json

/-! ## Lists -/

theorem mapM_map_eq_some {α β : Type} {f : α → β} {read : β → Option α} {as : List α}
    (h : ∀ a ∈ as, read (f a) = some a) : (as.map f).mapM read = some as := by
  induction as with
  | nil => rfl
  | cons a as ih =>
      have htail := ih fun b hb => h b (List.mem_cons_of_mem a hb)
      rw [List.map_cons, List.mapM_cons, h a List.mem_cons_self, htail]
      rfl

theorem list?_array_map {α : Type} {f : α → Json} {read : Json → Option α} {as : List α}
    (h : ∀ a ∈ as, read (f a) = some a) : (array (as.map f)).list? read = some as :=
  mapM_map_eq_some h

theorem isProper_array_map {α : Type} {f : α → Json} {as : List α}
    (h : ∀ a ∈ as, (f a).IsProper) : (array (as.map f)).IsProper := by
  refine areProper_iff.2 fun item hitem => ?_
  obtain ⟨a, ha, rfl⟩ := List.mem_map.1 hitem
  exact h a ha

/-! ## Values that may be missing -/

theorem option?_ofOption {α : Type} {f : α → Json} {read : Json → Option α}
    (h : ∀ a, read (f a) = some a) (hnull : ∀ a, f a ≠ .null) (value : Option α) :
    (ofOption f value).option? read = some value := by
  cases value with
  | none => rfl
  | some a =>
      show (f a).option? read = _
      unfold option?
      split
      · next heq => exact absurd heq (hnull a)
      · rw [h a, Option.map_some]

theorem isProper_ofOption {α : Type} {f : α → Json} (h : ∀ a, (f a).IsProper)
    (value : Option α) : (ofOption f value).IsProper := by
  cases value with
  | none => exact trivial
  | some a => exact h a

/-! ## Records -/

theorem distinctNames_iff {members : List (String × Json)} :
    distinctNames members = true ↔ (members.map Prod.fst).Nodup := by
  induction members with
  | nil => simp [distinctNames]
  | cons m members ih =>
      have hany : members.any (·.1 == m.1) = true ↔ m.1 ∈ members.map Prod.fst := by
        rw [List.any_eq_true, List.mem_map]
        simp only [beq_iff_eq]
      rw [distinctNames, Bool.and_eq_true, ih, List.map_cons, List.nodup_cons, ← hany,
        Bool.not_eq_true', Bool.not_eq_true]

theorem named?_record (members : List (String × Json)) :
    named? (members.map fun m => (some m.1, m.2)) = some members :=
  mapM_map_eq_some fun _ _ => rfl

/-- Of the members of a record those are read back that are known, if none of them stands twice. -/
theorem fields?_record_filter {names : List String} {members : List (String × Json)}
    (hnodup : ((members.filter fun m => names.contains m.1).map Prod.fst).Nodup) :
    (record members).fields? names = some (members.filter fun m => names.contains m.1) := by
  show (named? (members.map fun m => (some m.1, m.2))).bind _ = _
  rw [named?_record, Option.bind_some, if_pos (distinctNames_iff.2 hnodup)]
  rfl

theorem fields?_record {names : List String} {members : List (String × Json)}
    (hknown : ∀ m ∈ members, m.1 ∈ names) (hnodup : (members.map Prod.fst).Nodup) :
    (record members).fields? names = some members := by
  have hfilter : (members.filter fun m => names.contains m.1) = members := by
    rw [List.filter_eq_self]
    intro m hm
    rw [List.contains_iff_mem]
    exact hknown m hm
  rw [fields?_record_filter (by rwa [hfilter]), hfilter]

theorem allFields?_record {names : List String} {members : List (String × Json)}
    (hknown : ∀ m ∈ members, m.1 ∈ names) (hnodup : (members.map Prod.fst).Nodup) :
    (record members).allFields? names = some members :=
  fields?_record hknown hnodup

theorem isProper_ofString (s : String) : (ofString s).IsProper := trivial

theorem string?_ofString (s : String) : (ofString s).string? = some s := rfl

theorem ofString_ne_null (s : String) : ofString s ≠ .null := nofun

theorem isProper_ofInt64 (i : Int64) : (ofInt64 i).IsProper := Numeral.isProper_ofInt i.toInt

theorem isProper_record {members : List (String × Json)} (h : ∀ m ∈ members, m.2.IsProper) :
    (record members).IsProper := by
  refine haveProper_iff.2 fun m hm => ?_
  obtain ⟨member, hmember, rfl⟩ := List.mem_map.1 hm
  exact h member hmember

theorem required?_of_lookup {α : Type} {fields : List (String × Json)} {name : String} {j : Json}
    {a : α} {read : Json → Option α} (hj : fields.lookup name = some j) (ha : read j = some a) :
    required? fields name read = some a := by
  unfold required?
  rw [hj]
  exact ha

theorem defaulted?_of_lookup {α : Type} {fields : List (String × Json)} {name : String} {j : Json}
    {value a : α} {read : Json → Option α} (hj : fields.lookup name = some j)
    (ha : read j = some a) : defaulted? fields name value read = some a := by
  unfold defaulted?
  rw [hj]
  exact ha

end AudioLibrary.Json
