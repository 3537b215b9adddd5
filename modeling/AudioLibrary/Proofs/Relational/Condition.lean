import AudioLibrary.Relational.Eval

/-!
# What conditions come to

A statement lets pass what is true, so its conditions are read through `Truth.holds`.  The lemmas
here say when a comparison, a membership and a disjunction hold, and when a membership fails, which
is more than that it does not hold: nothing may be unknown.

Numbers of rows and texts are equal to a statement exactly if they are equal, `equal_integer` and
`equal_text`; the rest of the development uses no other comparison.
-/

namespace AudioLibrary.Relational

/-! ## Comparing values -/

theorem same_integer (i j : Int64) :
    (Value.integer i).same (.integer j) = decide (i = j) := by
  simp [Value.same, Value.compareBy, Bool.beq_eq_decide_eq]

theorem same_text (s t : String) : (Value.text s).same (.text t) = decide (s = t) := by
  simp [Value.same, Value.compareBy, Value.Collation.compare, Bool.beq_eq_decide_eq]

@[simp] theorem equal_integer (i j : Int64) :
    equal (.integer i) (.integer j) = some (decide (i = j)) := by
  simp [equal, Value.isNull, same_integer]

@[simp] theorem equal_text (s t : String) :
    equal (.text s) (.text t) = some (decide (s = t)) := by
  simp [equal, Value.isNull, same_text]

@[simp] theorem Truth.holds_some (b : Bool) : Truth.holds (some b) = b := by
  cases b <;> rfl

@[simp] theorem Truth.holds_none : Truth.holds none = false := rfl

@[simp] theorem Truth.holds_not_some (b : Bool) : (Truth.not (some b)).holds = !b := by
  cases b <;> rfl

theorem Truth.holds_not_or (s t : Truth) :
    (Truth.or s t).not.holds = (s.not.holds && t.not.holds) := by
  rcases s with _ | _ | _ <;> rcases t with _ | _ | _ <;> rfl

/-! ## Membership -/

theorem holds_member_iff {v : Value} {ws : List Value} :
    (member v ws).holds = true ↔ ∃ w ∈ ws, (equal v w).holds = true := by
  induction ws with
  | nil => simp [member]
  | cons w ws ih =>
      have hcons : member v (w :: ws) = (equal v w).or (member v ws) := rfl
      rw [hcons, Truth.holds_or, Bool.or_eq_true, ih]
      simp

/-- A value is outside a list if it differs from every member; a member that is nothing would leave
it open. -/
theorem holds_not_member_iff {v : Value} {ws : List Value} :
    (member v ws).not.holds = true ↔ ∀ w ∈ ws, (equal v w).not.holds = true := by
  induction ws with
  | nil => simp [member]
  | cons w ws ih =>
      have hcons : member v (w :: ws) = (equal v w).or (member v ws) := rfl
      rw [hcons, Truth.holds_not_or, Bool.and_eq_true, ih]
      simp

/-! ## Disjunctions and conjunctions -/

namespace Condition

variable {ρ : Type} {sub : ρ → Scope → List Value} {scope : Scope}

theorem holds_foldl_either_iff (c : Condition ρ) (cs : List (Condition ρ)) :
    ((cs.foldl .either c).eval sub scope).holds = true ↔
      ∃ d ∈ c :: cs, (d.eval sub scope).holds = true := by
  induction cs generalizing c with
  | nil => simp
  | cons d cs ih =>
      rw [List.foldl_cons, ih]
      simp [eval, or_assoc]

theorem holds_anyOf_iff (c : Condition ρ) (cs : List (Condition ρ)) :
    ((anyOf c cs).eval sub scope).holds = true ↔
      ∃ d ∈ c :: cs, (d.eval sub scope).holds = true :=
  holds_foldl_either_iff c cs

theorem holds_foldl_both_iff (c : Condition ρ) (cs : List (Condition ρ)) :
    ((cs.foldl .both c).eval sub scope).holds = true ↔
      ∀ d ∈ c :: cs, (d.eval sub scope).holds = true := by
  induction cs generalizing c with
  | nil => simp
  | cons d cs ih =>
      rw [List.foldl_cons, ih]
      simp [eval, and_assoc]

theorem holds_allOf_iff (c : Condition ρ) (cs : List (Condition ρ)) :
    ((allOf c cs).eval sub scope).holds = true ↔
      ∀ d ∈ c :: cs, (d.eval sub scope).holds = true :=
  holds_foldl_both_iff c cs

theorem allHold_iff {cs : List (Condition ρ)} :
    allHold sub scope cs = true ↔ ∀ c ∈ cs, (c.eval sub scope).holds = true := by
  simp [allHold]

end Condition

/-! ## Patterns -/

/-- A text is like a pattern that is a text. -/
theorem holds_likeTruth_text (s pattern : String) :
    (Condition.likeTruth (.text s) (.text pattern)).holds =
      like (s.toList.map some) pattern.toList := by
  simp [Condition.likeTruth, places?_text, Value.chars?]

/-- A value is like a pattern if it has a text and that is. -/
theorem holds_likeTruth_iff {v : Value} {pattern : String} :
    (Condition.likeTruth v (.text pattern)).holds = true ↔
      ∃ places, places? v = some places ∧ like places pattern.toList = true := by
  have hpattern : (Value.text pattern).chars? = some pattern.toList := rfl
  unfold Condition.likeTruth
  rw [hpattern]
  cases places? v <;> simp

end AudioLibrary.Relational
