import AudioLibrary.Relational.Placeholder
import AudioLibrary.Relational.Select
import Mathlib.Tactic.SplitIfs

/-!
# Placeholders of rendered statements

A rendered statement has its placeholders in two forms: as slots, each with its argument, and as
question marks in its text, which are found only by scanning the text from its start and following
which apostrophes open a literal and which close one.

The scan meets the slots, and nothing else, if every piece of text is closed: it ends outside a
literal and has no question mark but inside of one.  Then `textsBefore_sql` gives the text in front
of each placeholder from the slots, so that what the placeholders of a text stand for is decided
slot by slot.
-/

namespace AudioLibrary.Relational

/-! ## Scanning -/

/-- The texts before the placeholders of a text, each read backwards.  `literal` says whether the
text starts inside a literal and `before` is what stands before all of it. -/
def textsBefore (literal : Bool) (before : List Char) : List Char → List (List Char)
  | [] => []
  | c :: text =>
      if c = '\'' then textsBefore (!literal) (c :: before) text
      else if c = '?' ∧ !literal then before :: textsBefore literal (c :: before) text
      else textsBefore literal (c :: before) text

/-- Whether a text has no placeholder and ends outside a literal. -/
def isClosedFrom (literal : Bool) : List Char → Bool
  | [] => !literal
  | c :: text =>
      if c = '\'' then isClosedFrom (!literal) text
      else (literal || c != '?') && isClosedFrom literal text

theorem length_textsBefore (literal : Bool) (before text : List Char) :
    (textsBefore literal before text).length = countPlaceholders literal text := by
  induction text generalizing literal before with
  | nil => rfl
  | cons c text ih =>
      unfold textsBefore countPlaceholders
      split
      · exact ih _ _
      · split
        · rw [List.length_cons, ih]
        · exact ih _ _

/-- A closed text is passed over. -/
theorem textsBefore_append {literal : Bool} {text : List Char}
    (h : isClosedFrom literal text = true) (before rest : List Char) :
    textsBefore literal before (text ++ rest) =
      textsBefore false (text.reverse ++ before) rest := by
  -- the state that the scan has reached is an argument of the induction
  induction text generalizing literal before with
  | nil =>
      have hout : literal = false := by simpa [isClosedFrom] using h
      rw [hout]
      rfl
  | cons c text ih =>
      have hbefore : (c :: text).reverse ++ before = text.reverse ++ c :: before := by simp
      rw [List.cons_append, textsBefore, hbefore]
      unfold isClosedFrom at h
      by_cases hquote : c = '\''
      · rw [if_pos hquote] at h ⊢
        exact ih h _
      · rw [if_neg hquote] at h ⊢
        obtain ⟨hmark, htext⟩ := Bool.and_eq_true_iff.mp h
        have hbare : ¬(c = '?' ∧ (!literal) = true) := by
          rintro ⟨rfl, hout⟩
          cases literal with
          | true => exact Bool.false_ne_true hout
          | false => exact Bool.false_ne_true hmark
        rw [if_neg hbare]
        exact ih htext _

theorem isClosedFrom_append {literal : Bool} {text : List Char}
    (h : isClosedFrom literal text = true) (rest : List Char) :
    isClosedFrom literal (text ++ rest) = isClosedFrom false rest := by
  induction text generalizing literal with
  | nil =>
      have hout : literal = false := by simpa [isClosedFrom] using h
      rw [hout, List.nil_append]
  | cons c text ih =>
      rw [List.cons_append, isClosedFrom]
      unfold isClosedFrom at h
      split_ifs at h ⊢
      · exact ih h
      · obtain ⟨hmark, htext⟩ := Bool.and_eq_true_iff.mp h
        rw [hmark, Bool.true_and]
        exact ih htext

/-- The inside of a literal, however many apostrophes it has, is one up to its last one. -/
theorem isClosedFrom_quoted (text : List Char) :
    isClosedFrom true
      (text.flatMap (fun c => if c = '\'' then ['\'', '\''] else [c]) ++ ['\'']) = true := by
  induction text with
  | nil => rfl
  | cons c text ih =>
      rw [List.flatMap_cons, List.append_assoc]
      by_cases hquote : c = '\''
      · rw [if_pos hquote]
        exact ih
      · rw [if_neg hquote, List.singleton_append, isClosedFrom, if_neg hquote]
        exact ih

/-- **No literal opens or closes anything outside of it.** -/
theorem isClosedFrom_quoteLiteral (s : String) :
    isClosedFrom false (Expr.quoteLiteral s).toList = true := by
  unfold Expr.quoteLiteral
  rw [String.toList_ofList, List.cons_append, isClosedFrom, if_pos rfl]
  exact isClosedFrom_quoted s.toList

theorem isClosedFrom_of_isDigit {text : List Char} (h : ∀ c ∈ text, c.isDigit = true) :
    isClosedFrom false text = true := by
  induction text with
  | nil => rfl
  | cons c text ih =>
      have hdigit : c.isDigit = true := h c List.mem_cons_self
      have hquote : c ≠ '\'' := by
        rintro rfl
        exact absurd hdigit (by decide)
      have hmark : c ≠ '?' := by
        rintro rfl
        exact absurd hdigit (by decide)
      rw [isClosedFrom, if_neg hquote, bne_iff_ne.mpr hmark]
      exact ih fun d hd => h d (List.mem_cons_of_mem c hd)

/-! ## Slots -/

namespace Rendered

/-- Whether every piece of text is closed. -/
def isClosed (r : Rendered) : Bool :=
  r.all fun
    | .text s => isClosedFrom false s.toList
    | .slot _ => true

/-- Whether there are no slots. -/
def isFixed (r : Rendered) : Bool :=
  r.all fun
    | .text _ => true
    | .slot _ => false

/-- The characters of the text. -/
def chars : Rendered → List Char
  | [] => []
  | .text s :: r => s.toList ++ chars r
  | .slot _ :: r => '?' :: chars r

/-- The arguments, each with the text before its slot read backwards. -/
def slots (before : List Char) : Rendered → List (List Char × Argument)
  | [] => []
  | .text s :: r => slots (s.toList.reverse ++ before) r
  | .slot a :: r => (before, a) :: slots ('?' :: before) r

@[simp] theorem isClosed_append (r s : Rendered) :
    isClosed (r ++ s) = (isClosed r && isClosed s) :=
  List.all_append

theorem toList_sql (r : Rendered) : r.sql.toList = r.chars := by
  unfold sql
  rw [String.toList_ofList]
  induction r with
  | nil => rfl
  | cons piece r ih =>
      rw [List.flatMap_cons, ih]
      cases piece <;> rfl

@[simp] theorem isClosed_nil : isClosed [] = true := rfl

@[simp] theorem isClosed_text (s : String) (r : Rendered) :
    isClosed (.text s :: r) = (isClosedFrom false s.toList && isClosed r) := rfl

@[simp] theorem isClosed_slot (a : Argument) (r : Rendered) :
    isClosed (.slot a :: r) = isClosed r := rfl

theorem slots_append (r s : Rendered) (before : List Char) :
    slots before (r ++ s) =
      slots before r ++ slots (r.chars.reverse ++ before) s := by
  induction r generalizing before with
  | nil => rfl
  | cons piece r ih =>
      cases piece with
      | text t =>
          rw [List.cons_append, slots, slots, ih, chars, List.reverse_append, List.append_assoc]
      | slot a =>
          rw [List.cons_append, slots, slots, ih, chars, List.reverse_cons, List.append_assoc]
          rfl

theorem slots_of_isFixed {r : Rendered} (h : r.isFixed = true) (before : List Char) :
    slots before r = [] := by
  induction r generalizing before with
  | nil => rfl
  | cons piece r ih =>
      obtain ⟨hpiece, hr⟩ := List.all_cons.symm.trans h |> Bool.and_eq_true_iff.mp
      cases piece with
      | text s => exact ih hr _
      | slot a => exact absurd hpiece Bool.false_ne_true

theorem map_snd_slots (r : Rendered) (before : List Char) :
    (slots before r).map Prod.snd = r.arguments := by
  induction r generalizing before with
  | nil => rfl
  | cons piece r ih =>
      cases piece with
      | text s => exact ih _
      | slot a => rw [slots, List.map_cons, ih, arguments_slot]

/-- The placeholders of closed text are its slots. -/
theorem textsBefore_chars {r : Rendered} (h : r.isClosed = true) (before : List Char) :
    textsBefore false before (chars r) = (slots before r).map Prod.fst := by
  induction r generalizing before with
  | nil => rfl
  | cons piece r ih =>
      obtain ⟨hpiece, hr⟩ := List.all_cons.symm.trans h |> Bool.and_eq_true_iff.mp
      cases piece with
      | text s => rw [chars, textsBefore_append hpiece, ih hr, slots]
      | slot a =>
          have hscan : textsBefore false before ('?' :: chars r) =
              before :: textsBefore false ('?' :: before) (chars r) := rfl
          rw [chars, hscan, ih hr, slots, List.map_cons]

/-- **The placeholders of a statement's text are the slots that it was rendered from.** -/
theorem textsBefore_sql {r : Rendered} (h : r.isClosed = true) :
    textsBefore false [] r.sql.toList = (slots [] r).map Prod.fst := by
  rw [toList_sql, textsBefore_chars h]

/-- There are as many placeholders as arguments. -/
theorem placeholderCount_sql {r : Rendered} (h : r.isClosed = true) :
    placeholderCount r.sql = r.arguments.length := by
  calc placeholderCount r.sql
      = (textsBefore false [] r.sql.toList).length := (length_textsBefore false [] _).symm
    _ = ((slots [] r).map Prod.fst).length := by rw [textsBefore_sql h]
    _ = ((slots [] r).map Prod.snd).length := by rw [List.length_map, List.length_map]
    _ = r.arguments.length := by rw [map_snd_slots]

end Rendered

/-! ## Expressions -/

namespace Expr

/-- The names of columns and their sources. -/
def names : Expr → List String
  | column source name => name :: source.toList
  | argument _ | number _ | literal _ | char _ => []
  | ifNull l r | concat l r => l.names ++ r.names
  | replace e old new => e.names ++ old.names ++ new.names
  | lower e | group e => e.names

/-- **An expression over closed names is closed**, whatever literals it has. -/
theorem isClosed_render {e : Expr} (h : ∀ name ∈ e.names, isClosedFrom false name.toList = true) :
    e.render.isClosed = true := by
  have hnumber : ∀ n : Nat, isClosedFrom false (Nat.toDigits 10 n) = true := fun n =>
    isClosedFrom_of_isDigit fun c hc => Nat.isDigit_of_mem_toDigits (by decide) (by decide) hc
  induction e with
  | column source name =>
      have hname := h name List.mem_cons_self
      cases source with
      | none => simp [render, hname]
      | some source =>
          have hsource := h source (by simp [names])
          simp [render, isClosedFrom_append hsource, isClosedFrom, hname]
  | argument a => rfl
  | number n => simp [render, hnumber]
  | literal s => simp [render, isClosedFrom_quoteLiteral]
  | char n => simp [render, isClosedFrom, isClosedFrom_append (hnumber n)]
  | ifNull l r ihl ihr | concat l r ihl ihr =>
      rw [names, List.forall_mem_append] at h
      simp [render, isClosedFrom, ihl h.1, ihr h.2]
  | replace e old new ihe iho ihn =>
      rw [names, List.forall_mem_append, List.forall_mem_append] at h
      simp [render, isClosedFrom, ihe h.1.1, iho h.1.2, ihn h.2]
  | lower e ih => simp [render, isClosedFrom, ih h]
  | group e ih => simp [render, Rendered.parens, isClosedFrom, ih h]

end Expr

end AudioLibrary.Relational
