import AudioLibrary.Proofs.Json.Spelling

/-!
# Documents, written and read

The text that is written for a document spells it, if its numbers may be written, `spells_print`;
and what spells a document is read back, so `parse?_render` reads what was written.
-/

namespace AudioLibrary.Json

open AudioLibrary.Json.Parser

/-! ## Documents that may be written -/

mutual

/-- Whether all numbers of a document may be written. -/
def IsProper : Json → Prop
  | .number n => n.IsProper
  | .array items => AreProper items
  | .object members => HaveProper members
  | _ => True

def AreProper : List Json → Prop
  | [] => True
  | item :: items => item.IsProper ∧ AreProper items

def HaveProper : List (Option String × Json) → Prop
  | [] => True
  | (_, value) :: members => value.IsProper ∧ HaveProper members

end

theorem areProper_iff {items : List Json} : AreProper items ↔ ∀ item ∈ items, item.IsProper := by
  induction items with
  | nil => simp [AreProper]
  | cons item items ih => simp [AreProper, ih]

theorem haveProper_iff {members : List (Option String × Json)} :
    HaveProper members ↔ ∀ m ∈ members, m.2.IsProper := by
  induction members with
  | nil => simp [HaveProper]
  | cons m members ih => simp [HaveProper, ih]

/-! ## What is written -/

/-- A text stands there without blanks around it. -/
theorem spaced_of_self {p : List Char → Prop} {cs : List Char} (h : p cs) : Spaced p cs :=
  ⟨[], cs, [], by simp, List.forall_mem_nil _, h, List.forall_mem_nil _⟩

theorem spellsMember_print (name : Option String) {value : List Char → Prop} {cs : List Char}
    (h : value cs) : SpellsMember name value (printText name ++ ':' :: cs) :=
  ⟨_, _, rfl, spaced_of_self (spellsText_printText name), spaced_of_self h⟩

mutual

/-- What is written for a document spells it. -/
theorem spells_print (j : Json) (hj : j.IsProper) : j.Spells j.print := by
  match j, hj with
  | .null, _ => rfl
  | .bool true, _ => rfl
  | .bool false, _ => rfl
  | .number n, hj => exact spellsNumeral_printNumeral hj
  | .text s, _ => exact spellsText_printText s
  | .array items, hj => exact ⟨_, rfl, spellsItems_print items hj⟩
  | .object members, hj => exact ⟨_, rfl, spellsMembers_print members hj⟩

theorem spellsItems_print (items : List Json) (hitems : AreProper items) :
    SpellsItems items (printItems items) := by
  match items, hitems with
  | [], _ => exact List.forall_mem_nil _
  | [item], hitems =>
      rw [printItems]
      exact spaced_of_self (spells_print item hitems.1)
  | item :: other :: items, hitems =>
      rw [printItems]
      · exact ⟨_, _, rfl, spaced_of_self (spells_print item hitems.1),
          spellsItems_print (other :: items) hitems.2⟩
      · exact List.cons_ne_nil other items

theorem spellsMembers_print (members : List (Option String × Json))
    (hmembers : HaveProper members) : SpellsMembers members (printMembers members) := by
  match members, hmembers with
  | [], _ => exact List.forall_mem_nil _
  | [(name, value)], hmembers =>
      rw [printMembers]
      exact spellsMember_print name (spells_print value hmembers.1)
  | (name, value) :: other :: members, hmembers =>
      rw [printMembers]
      · exact ⟨_, _, rfl, spellsMember_print name (spells_print value hmembers.1),
          spellsMembers_print (other :: members) hmembers.2⟩
      · exact List.cons_ne_nil other members

end

/-- **The text of a document spells the document.** -/
theorem parse?_render {j : Json} (hj : j.IsProper) : parse? j.render = some j := by
  refine parse?_of_spells (spaced_of_self ?_)
  rw [render, String.toList_ofList]
  exact spells_print j hj

end AudioLibrary.Json
