import AudioLibrary.Proofs.Query.Answers
import AudioLibrary.Proofs.Query.RowPredicates

/-!
# Looking for what a user typed

What a user typed is escaped and put between percent signs, `Predicate.containing`, and a stored
text is compared with the pattern that this makes.  Escaping loses nothing, so that percent signs,
underscores and marks in what was typed stand for themselves, in any arrangement.

`like_containing_found` says what the comparison comes to: whether the text holds the word, as far
as characters are compared plainly.  `not_found_plainly` shows the words with which it is not so.
-/

namespace AudioLibrary

open AudioLibrary.Relational AudioLibrary.Text

/-- **A stored text is like the pattern for a word exactly if the word is found in it**, which is
plain search up to ASCII case if no character of the word, or none of the text, is compared
otherwise.  Only a pattern that is too long is refused, and no two words have the same pattern. -/
theorem like_containing_found {ρ : Type} (sub : ρ → Scope → List Value) {scope : Scope} {e : Expr}
    {text : String} (hvalue : e.eval scope = .text text) (hnul : '\x00' ∉ text.toList)
    (word : String) :
    let pattern := String.ofList ('%' :: escape word.toList ++ ['%'])
    let condition : Condition ρ := .like e (.argument (.text pattern))
    Predicate.containing word = .text pattern ∧
      condition.eval sub scope = some (decide (Found word.toList text.toList)) ∧
      ('\x00' ∉ word.toList →
        (∀ c ∈ word.toList, IsOrdinary c) ∨ (∀ c ∈ text.toList, IsOrdinary c) →
          ((condition.eval sub scope).holds = true ↔
            foldCase word.toList <:+: foldCase text.toList)) ∧
      (condition.meetsLongPattern sub scope = true ↔ maxPatternSize < pattern.utf8ByteSize) ∧
      Function.Injective escape := by
  intro pattern condition
  have heval : condition.eval sub scope = some (decide (Found word.toList text.toList)) := by
    have htruth : Condition.likeTruth (.text text) (.text pattern) =
        some (like (text.toList.map some) pattern.toList) := by
      simp [Condition.likeTruth, places?_text, Value.chars?]
    show Condition.likeTruth (e.eval scope) (.text pattern) = _
    rw [hvalue, htruth, String.toList_ofList, Option.some_inj, Bool.eq_iff_iff, decide_eq_true_eq]
    exact like_containing hnul word.toList
  refine ⟨rfl, heval, fun hword hordinary => ?_, ?_, escape_injective⟩
  · rw [heval, Truth.holds_some, decide_eq_true_eq]
    rcases hordinary with hordinary | hordinary
    · exact found_iff_of_isOrdinary hword hordinary
    · exact found_iff_of_isOrdinary_text hword hordinary
  · show isLongPattern (.text pattern) = true ↔ _
    rw [isLongPattern_text, decide_eq_true_eq]

/-- A word made of wildcards and marks is found where it stands. -/
theorem like_containing_found_wildcards :
    let scope : Scope := [("a", [("title", .text "100%_\\ off")])]
    let condition : Condition Empty :=
      .like (.col "a" "title") (.argument (Predicate.containing "%_\\"))
    (Expr.col "a" "title").eval scope = .text "100%_\\ off" ∧
      '\x00' ∉ "100%_\\ off".toList ∧ (condition.eval Empty.elim scope).holds = true := by
  intro scope condition
  have hvalue : (Expr.col "a" "title").eval scope = .text "100%_\\ off" := rfl
  have hnul : '\x00' ∉ "100%_\\ off".toList := by decide
  have hplain : ∀ c ∈ "%_\\".toList, IsOrdinary c := by
    intro c hc
    have hall : ("%_\\".toList.all fun c => decide (IsOrdinary c)) = true := by decide
    exact of_decide_eq_true (List.all_eq_true.1 hall c hc)
  refine ⟨hvalue, hnul, ?_⟩
  exact ((like_containing_found Empty.elim hvalue hnul "%_\\").2.2.1 (by decide)
    (.inl hplain)).2 (by decide)

/-- Not every word is found plainly: U+FFFD is found in U+FFFF, a word with a U+0000 in what ends
with the part before it, and a long word is refused even by a text that is the word. -/
theorem not_found_plainly :
    let stored (text : String) : Scope := [("a", [("title", .text text)])]
    let search (word : String) : Condition Empty :=
      .like (.col "a" "title") (.argument (Predicate.containing word))
    let long := String.ofList (List.replicate 49999 'a')
    (((search "\ufffd").eval Empty.elim (stored "\uffff")).holds = true ∧
      ¬ foldCase "\ufffd".toList <:+: foldCase "\uffff".toList) ∧
    (((search "a\x00").eval Empty.elim (stored "a")).holds = true ∧
      ¬ foldCase "a\x00".toList <:+: foldCase "a".toList) ∧
    ((search long).meetsLongPattern Empty.elim (stored long) = true ∧
      '\x00' ∉ long.toList ∧ foldCase long.toList <:+: foldCase long.toList) := by
  intro stored search long
  refine ⟨⟨by decide, by decide⟩, ⟨by decide, by decide⟩, ?_, ?_, List.infix_rfl⟩
  · have hword : long.toList.length = 49999 := by
      rw [String.toList_ofList, List.length_replicate]
    have hescaped := length_le_length_escape long.toList
    have hsize := length_le_utf8ByteSize_ofList ('%' :: escape long.toList ++ ['%'])
    rw [List.length_append, List.length_cons, List.length_singleton] at hsize
    show isLongPattern (.text (String.ofList ('%' :: escape long.toList ++ ['%']))) = true
    rw [isLongPattern_text, decide_eq_true_eq]
    unfold maxPatternSize
    omega
  · rw [String.toList_ofList]
    intro hnul
    exact absurd (List.eq_of_mem_replicate hnul) (by decide)

end AudioLibrary
