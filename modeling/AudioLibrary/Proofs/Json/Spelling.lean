import AudioLibrary.Proofs.Json.Numerals
import AudioLibrary.Proofs.Json.Strings
import Mathlib.Data.List.TakeWhile

/-!
# Documents, spelled and read

Many texts spell one document: blanks may stand between any two tokens, and strings and numbers have
spellings of their own.  `Spells` says which texts these are, along the tree.  The parser reads
every one of them, `parse?_of_spells`, however deep the tree is.

The induction is on the tree; it goes through with any text after it that ends a number, and with
any budget of calls that is no less than the length of the text.
-/

namespace AudioLibrary.Json

open AudioLibrary.Json.Parser

/-! ## What spells a document -/

/-- Whether a text is of blanks alone. -/
def IsBlank (cs : List Char) : Prop := ∀ c ∈ cs, isSpace c = true

/-- Whether a text has what is asked of it, blanks around it apart. -/
def Spaced (p : List Char → Prop) (cs : List Char) : Prop :=
  ∃ before text after, cs = before ++ (text ++ after) ∧ IsBlank before ∧ p text ∧ IsBlank after

/-- What spells a name and a value, given what spells the value. -/
def SpellsMember (name : Option String) (value : List Char → Prop) (cs : List Char) : Prop :=
  ∃ first second, cs = first ++ ':' :: second ∧ Spaced (SpellsText name) first ∧
    Spaced value second

mutual

/-- What spells a document, without blanks around it. -/
def Spells : Json → List Char → Prop
  | .null, cs => cs = ['n', 'u', 'l', 'l']
  | .bool true, cs => cs = ['t', 'r', 'u', 'e']
  | .bool false, cs => cs = ['f', 'a', 'l', 's', 'e']
  | .number n, cs => SpellsNumeral n cs
  | .text s, cs => SpellsText s cs
  | .array items, cs => ∃ inner, cs = '[' :: inner ++ [']'] ∧ SpellsItems items inner
  | .object members, cs => ∃ inner, cs = '\x7b' :: inner ++ ['\x7d'] ∧ SpellsMembers members inner

/-- What spells items, with commas between them. -/
def SpellsItems : List Json → List Char → Prop
  | [], cs => IsBlank cs
  | [item], cs => Spaced (fun text => Spells item text) cs
  | item :: other :: items, cs => ∃ first more, cs = first ++ ',' :: more ∧
      Spaced (fun text => Spells item text) first ∧ SpellsItems (other :: items) more

/-- What spells members, with commas between them. -/
def SpellsMembers : List (Option String × Json) → List Char → Prop
  | [], cs => IsBlank cs
  | [(name, value)], cs => SpellsMember name (fun text => Spells value text) cs
  | (name, value) :: other :: members, cs => ∃ first more, cs = first ++ ',' :: more ∧
      SpellsMember name (fun text => Spells value text) first ∧
      SpellsMembers (other :: members) more

end

/-! ## Blanks -/

theorem skipSpace_cons {c : Char} (hc : isSpace c = false) (cs : List Char) :
    skipSpace (c :: cs) = c :: cs := by
  unfold skipSpace
  rw [List.dropWhile_cons_of_neg (by simp [hc])]

theorem IsBlank.skipSpace_append {before : List Char} (h : IsBlank before) (cs : List Char) :
    skipSpace (before ++ cs) = skipSpace cs :=
  List.dropWhile_append_of_pos h

theorem IsBlank.skipSpace_append_cons {before : List Char} (h : IsBlank before) {c : Char}
    (hc : isSpace c = false) (cs : List Char) : skipSpace (before ++ c :: cs) = c :: cs := by
  rw [h.skipSpace_append, skipSpace_cons hc]

theorem skipSpace_skipSpace (cs : List Char) : skipSpace (skipSpace cs) = skipSpace cs := by
  induction cs with
  | nil => rfl
  | cons c cs ih =>
      cases hc : isSpace c with
      | true =>
          have hdrop : skipSpace (c :: cs) = skipSpace cs := List.dropWhile_cons_of_pos hc
          rw [hdrop, ih]
      | false => rw [skipSpace_cons hc, skipSpace_cons hc]

theorem value?_skipSpace (fuel : Nat) (cs : List Char) :
    value? fuel (skipSpace cs) = value? fuel cs := by
  cases fuel with
  | zero => rw [value?, value?]
  | succ fuel => rw [value?, value?, skipSpace_skipSpace]

theorem items?_skipSpace (fuel : Nat) (cs : List Char) :
    items? fuel (skipSpace cs) = items? fuel cs := by
  cases fuel with
  | zero => rw [items?, items?]
  | succ fuel => rw [items?, items?, value?_skipSpace]

theorem members?_skipSpace (fuel : Nat) (cs : List Char) :
    members? fuel (skipSpace cs) = members? fuel cs := by
  cases fuel with
  | zero => rw [members?, members?]
  | succ fuel => rw [members?, members?, skipSpace_skipSpace]

theorem IsBlank.value?_append {before : List Char} (h : IsBlank before) (fuel : Nat)
    (cs : List Char) : value? fuel (before ++ cs) = value? fuel cs := by
  rw [← value?_skipSpace, h.skipSpace_append, value?_skipSpace]

theorem endsNumber_cons {c : Char} (hc : c.isDigit = false ∧ c ≠ '.' ∧ c ≠ 'e' ∧ c ≠ 'E')
    (rest : List Char) : EndsNumber (c :: rest) := by
  intro d hd
  obtain rfl : c = d := Option.some.inj hd
  exact hc

/-- Blanks end a number. -/
theorem IsBlank.endsNumber_append {after : List Char} (h : IsBlank after) {rest : List Char}
    (hrest : EndsNumber rest) : EndsNumber (after ++ rest) := by
  cases after with
  | nil => exact hrest
  | cons c after =>
      have hblank : c = ' ' ∨ c = '\n' ∨ c = '\t' ∨ c = '\r' := by
        simpa [isSpace, or_assoc] using h c List.mem_cons_self
      refine endsNumber_cons ?_ _
      rcases hblank with rfl | rfl | rfl | rfl <;> decide

/-! ## What a document starts with -/

/-- Whether a number starts with the character. -/
def StartsNumber (c : Char) : Prop := c = '-' ∨ c.isDigit = true

theorem exists_cons_of_spellsNumeral {n : Numeral} {cs : List Char} (h : SpellsNumeral n cs) :
    ∃ c more, cs = c :: more ∧ StartsNumber c := by
  obtain ⟨hn, exponent, -, rfl⟩ := h
  obtain ⟨d, ds, hds⟩ := List.exists_cons_of_ne_nil hn.whole_ne_nil
  have hd : d < 10 := hn.areDigits_whole d (hds ▸ List.mem_cons_self)
  cases n.negative with
  | true => exact ⟨_, _, rfl, Or.inl rfl⟩
  | false =>
      rw [hds]
      exact ⟨_, _, rfl, Or.inr (digitChar_props d hd).1⟩

/-- Nothing else starts as a number does. -/
theorem StartsNumber.ne {c : Char} (hc : StartsNumber c) :
    ∀ d ∈ [' ', '\n', '\t', '\r', 'n', 't', 'f', '"', '[', ']', '\x7b'], c ≠ d := by
  have hnone : [' ', '\n', '\t', '\r', 'n', 't', 'f', '"', '[', ']', '\x7b'].all
      (fun d => !(d == '-' || d.isDigit)) = true := by
    decide
  rintro d hd rfl
  have hnot := List.all_eq_true.1 hnone c hd
  rcases hc with rfl | hdigit
  · exact Bool.noConfusion hnot
  · rw [hdigit, Bool.or_true] at hnot
    exact Bool.noConfusion hnot

theorem StartsNumber.not_isSpace {c : Char} (hc : StartsNumber c) :
    isSpace c = false ∧ c ≠ ']' := by
  have hne := hc.ne
  refine ⟨?_, hne ']' (by decide)⟩
  unfold isSpace
  rw [decide_eq_false (hne ' ' (by decide)), decide_eq_false (hne '\n' (by decide)),
    decide_eq_false (hne '\t' (by decide)), decide_eq_false (hne '\r' (by decide))]
  rfl

theorem exists_cons_of_spells {j : Json} {cs : List Char} (h : j.Spells cs) :
    ∃ c more, cs = c :: more ∧ isSpace c = false ∧ c ≠ ']' := by
  match j, h with
  | .null, h => exact ⟨_, _, h, by decide, by decide⟩
  | .bool true, h => exact ⟨_, _, h, by decide, by decide⟩
  | .bool false, h => exact ⟨_, _, h, by decide, by decide⟩
  | .number n, h =>
      obtain ⟨c, more, heq, hc⟩ := exists_cons_of_spellsNumeral h
      exact ⟨c, more, heq, hc.not_isSpace⟩
  | .text s, ⟨_, _, _, _, heq⟩ => exact ⟨_, _, heq, by decide, by decide⟩
  | .array _, ⟨_, heq, _⟩ => exact ⟨_, _, heq, by decide, by decide⟩
  | .object _, ⟨_, heq, _⟩ => exact ⟨_, _, heq, by decide, by decide⟩

theorem length_pos_of_spells {j : Json} {cs : List Char} (h : j.Spells cs) : 0 < cs.length := by
  obtain ⟨c, more, rfl, -⟩ := exists_cons_of_spells h
  exact Nat.succ_pos more.length

/-- The bracket that closes a list does not stand before its items. -/
theorem skipSpace_ne_of_spellsItems {items : List Json} (hne : items ≠ []) {cs : List Char}
    (h : SpellsItems items cs) (rest more : List Char) : skipSpace (cs ++ rest) ≠ ']' :: more := by
  have hspaced : ∀ {item : Json} {first : List Char}, Spaced (fun text => Spells item text) first →
      ∀ rest, skipSpace (first ++ rest) ≠ ']' :: more := by
    rintro item first ⟨before, text, after, rfl, hbefore, htext, -⟩ rest heq
    obtain ⟨c, cs, rfl, hspace, hc⟩ := exists_cons_of_spells htext
    rw [List.append_assoc, List.append_assoc, List.cons_append,
      hbefore.skipSpace_append_cons hspace] at heq
    exact hc (List.cons.inj heq).1
  match items, hne, h with
  | [item], _, h => exact hspaced h rest
  | item :: other :: items, _, ⟨first, others, heq, hfirst, _⟩ =>
      rw [heq, List.append_assoc]
      exact hspaced hfirst _

/-- A member starts with its name, and after that its value is left. -/
theorem exists_of_spellsMember {name : Option String} {p : List Char → Prop} {first : List Char}
    (h : SpellsMember name p first) :
    ∃ second, Spaced p second ∧ second.length < first.length ∧
      ∀ rest, ∃ named after, skipSpace (first ++ rest) = '"' :: named ∧
        Parser.string? named = some (name, after ++ ':' :: (second ++ rest)) ∧ IsBlank after := by
  obtain ⟨key, second, rfl, ⟨before, text, after, rfl, hbefore, htext, hafter⟩, hsecond⟩ := h
  have hlength : second.length < (before ++ (text ++ after) ++ ':' :: second).length := by
    rw [List.length_append, List.length_cons]
    omega
  refine ⟨second, hsecond, hlength, fun rest => ?_⟩
  obtain ⟨named, hnamed, hread⟩ := string?_of_spells htext (after ++ ':' :: (second ++ rest))
  refine ⟨named, after, ?_, hread, hafter⟩
  rw [← skipSpace_cons (by decide) named, ← hnamed]
  simp only [List.append_assoc, List.cons_append, hbefore.skipSpace_append]

/-- The brace that closes an object does not stand before its members. -/
theorem skipSpace_ne_of_spellsMembers {members : List (Option String × Json)} (hne : members ≠ [])
    {cs : List Char} (h : SpellsMembers members cs) (rest more : List Char) :
    skipSpace (cs ++ rest) ≠ '\x7d' :: more := by
  have hmember : ∀ {name : Option String} {p : List Char → Prop} {first : List Char},
      SpellsMember name p first → ∀ rest, skipSpace (first ++ rest) ≠ '\x7d' :: more := by
    intro name p first hfirst rest heq
    obtain ⟨_, -, -, hstart⟩ := exists_of_spellsMember hfirst
    obtain ⟨named, _, hnamed, -⟩ := hstart rest
    rw [hnamed] at heq
    exact absurd (List.cons.inj heq).1 (by decide)
  match members, hne, h with
  | [(name, value)], _, h => exact hmember h rest
  | (name, value) :: other :: members, _, ⟨first, others, heq, hfirst, _⟩ =>
      rw [heq, List.append_assoc]
      exact hmember hfirst _

/-! ## One layer of reading -/

theorem value?_number {c : Char} (hc : StartsNumber c) (fuel : Nat) (cs : List Char) :
    value? (fuel + 1) (c :: cs) =
      (numeral? (c :: cs)).map fun (n, rest) => (.number n, rest) := by
  unfold value?
  rw [skipSpace_cons hc.not_isSpace.1]
  split
  · next heq => exact absurd (List.cons.inj heq).1 (hc.ne 'n' (by decide))
  · next heq => exact absurd (List.cons.inj heq).1 (hc.ne 't' (by decide))
  · next heq => exact absurd (List.cons.inj heq).1 (hc.ne 'f' (by decide))
  · next heq => exact absurd (List.cons.inj heq).1 (hc.ne '"' (by decide))
  · next heq => exact absurd (List.cons.inj heq).1 (hc.ne '[' (by decide))
  · next heq => exact absurd (List.cons.inj heq).1 (hc.ne '\x7b' (by decide))
  · rfl

section Layers

variable {fuel : Nat} {cs more rest : List Char} {after : List Char}

theorem value?_array_nil (h : IsBlank cs) :
    value? (fuel + 1) ('[' :: (cs ++ ']' :: rest)) = some (.array [], rest) := by
  have hopen : isSpace '[' = false := by decide
  have hclose : isSpace ']' = false := by decide
  rw [value?, skipSpace_cons hopen]
  simp only [h.skipSpace_append_cons hclose]

theorem value?_array {items : List Json} (hclose : ∀ more, skipSpace cs ≠ ']' :: more)
    (h : items? fuel cs = some (items, rest)) :
    value? (fuel + 1) ('[' :: cs) = some (.array items, rest) := by
  have hopen : isSpace '[' = false := by decide
  rw [value?, skipSpace_cons hopen]
  simp only
  rw [items?_skipSpace, h, Option.map_some]

theorem value?_object_nil (h : IsBlank cs) :
    value? (fuel + 1) ('\x7b' :: (cs ++ '\x7d' :: rest)) = some (.object [], rest) := by
  have hopen : isSpace '\x7b' = false := by decide
  have hclose : isSpace '\x7d' = false := by decide
  rw [value?, skipSpace_cons hopen]
  simp only [h.skipSpace_append_cons hclose]

theorem value?_object {members : List (Option String × Json)}
    (hclose : ∀ more, skipSpace cs ≠ '\x7d' :: more)
    (h : members? fuel cs = some (members, rest)) :
    value? (fuel + 1) ('\x7b' :: cs) = some (.object members, rest) := by
  have hopen : isSpace '\x7b' = false := by decide
  rw [value?, skipSpace_cons hopen]
  simp only
  rw [members?_skipSpace, h, Option.map_some]

theorem items?_last {item : Json} (h : value? fuel cs = some (item, after ++ ']' :: rest))
    (hafter : IsBlank after) : items? (fuel + 1) cs = some ([item], rest) := by
  have hclose : isSpace ']' = false := by decide
  rw [items?, h, Option.bind_eq_bind, Option.bind_some]
  simp only [hafter.skipSpace_append_cons hclose]
  rfl

theorem items?_cons {item : Json} {items : List Json}
    (hitem : value? fuel cs = some (item, after ++ ',' :: more)) (hafter : IsBlank after)
    (hitems : items? fuel more = some (items, rest)) :
    items? (fuel + 1) cs = some (item :: items, rest) := by
  have hcomma : isSpace ',' = false := by decide
  rw [items?, hitem, Option.bind_eq_bind, Option.bind_some]
  simp only [hafter.skipSpace_append_cons hcomma]
  rw [hitems]
  rfl

theorem members?_last {name : Option String} {value : Json} {named second spaces : List Char}
    (hstart : skipSpace cs = '"' :: named)
    (hname : Parser.string? named = some (name, spaces ++ ':' :: second)) (hspaces : IsBlank spaces)
    (hvalue : value? fuel second = some (value, after ++ '\x7d' :: rest)) (hafter : IsBlank after) :
    members? (fuel + 1) cs = some ([(name, value)], rest) := by
  have hcolon : isSpace ':' = false := by decide
  have hclose : isSpace '\x7d' = false := by decide
  rw [members?, hstart]
  simp only [hname, Option.bind_eq_bind, Option.bind_some,
    hspaces.skipSpace_append_cons hcolon, hvalue, hafter.skipSpace_append_cons hclose]
  rfl

theorem members?_cons {name : Option String} {value : Json} {named second spaces : List Char}
    {members : List (Option String × Json)} (hstart : skipSpace cs = '"' :: named)
    (hname : Parser.string? named = some (name, spaces ++ ':' :: second)) (hspaces : IsBlank spaces)
    (hvalue : value? fuel second = some (value, after ++ ',' :: more)) (hafter : IsBlank after)
    (hmembers : members? fuel more = some (members, rest)) :
    members? (fuel + 1) cs = some ((name, value) :: members, rest) := by
  have hcolon : isSpace ':' = false := by decide
  have hcomma : isSpace ',' = false := by decide
  rw [members?, hstart]
  simp only [hname, Option.bind_eq_bind, Option.bind_some,
    hspaces.skipSpace_append_cons hcolon, hvalue, hafter.skipSpace_append_cons hcomma, hmembers]
  rfl

end Layers

/-! ## The whole tree -/

mutual

/-- However a document is spelled, it is read. -/
theorem value?_of_spells (j : Json) {cs : List Char} (h : j.Spells cs) (fuel : Nat)
    (rest : List Char) (hfuel : cs.length ≤ fuel + 1) (hrest : EndsNumber rest) :
    value? (fuel + 1) (cs ++ rest) = some (j, rest) := by
  match j, h with
  | .null, h =>
      obtain rfl := h
      rfl
  | .bool true, h =>
      obtain rfl := h
      rfl
  | .bool false, h =>
      obtain rfl := h
      rfl
  | .number n, h =>
      obtain ⟨c, more, rfl, hc⟩ := exists_cons_of_spellsNumeral h
      have hread := numeral?_of_spells h hrest
      rw [List.cons_append] at hread ⊢
      rw [value?_number hc, hread, Option.map_some]
  | .text s, h =>
      obtain ⟨more, heq, hread⟩ := string?_of_spells h rest
      rw [heq]
      exact congrArg (Option.map _) hread
  | .array [], h =>
      obtain ⟨inner, rfl, hinner⟩ := h
      rw [List.append_assoc, List.cons_append]
      exact value?_array_nil hinner
  | .array (item :: items), h =>
      obtain ⟨inner, rfl, hinner⟩ := h
      have hne := List.cons_ne_nil item items
      simp only [List.length_append, List.length_cons, List.length_nil] at hfuel
      have hread := items?_of_spells (item :: items) hne hinner fuel rest (by omega)
      rw [List.append_assoc, List.cons_append]
      exact value?_array (skipSpace_ne_of_spellsItems hne hinner _) hread
  | .object [], h =>
      obtain ⟨inner, rfl, hinner⟩ := h
      rw [List.append_assoc, List.cons_append]
      exact value?_object_nil hinner
  | .object (m :: members), h =>
      obtain ⟨inner, rfl, hinner⟩ := h
      have hne := List.cons_ne_nil m members
      simp only [List.length_append, List.length_cons, List.length_nil] at hfuel
      have hread := members?_of_spells (m :: members) hne hinner fuel rest (by omega)
      rw [List.append_assoc, List.cons_append]
      exact value?_object (skipSpace_ne_of_spellsMembers hne hinner _) hread

theorem items?_of_spells (items : List Json) (hne : items ≠ []) {cs : List Char}
    (h : SpellsItems items cs) (fuel : Nat) (rest : List Char) (hfuel : cs.length < fuel) :
    items? fuel (cs ++ ']' :: rest) = some (items, rest) := by
  match items, hne, h with
  | [item], _, h =>
      obtain ⟨before, text, after, rfl, hbefore, htext, hafter⟩ := h
      have hpos := length_pos_of_spells htext
      simp only [List.length_append] at hfuel
      -- one step goes to the list and one to its first item
      obtain ⟨budget, rfl⟩ : ∃ budget, fuel = budget + 1 + 1 := ⟨fuel - 2, by omega⟩
      have hitem := value?_of_spells item htext budget (after ++ ']' :: rest) (by omega)
        (hafter.endsNumber_append (endsNumber_cons (by decide) rest))
      refine items?_last ?_ hafter
      rw [List.append_assoc, List.append_assoc, hbefore.value?_append]
      exact hitem
  | item :: other :: items, _, h =>
      obtain ⟨first, more, rfl, ⟨before, text, after, rfl, hbefore, htext, hafter⟩, hmore⟩ := h
      have hpos := length_pos_of_spells htext
      simp only [List.length_append, List.length_cons] at hfuel
      obtain ⟨budget, rfl⟩ : ∃ budget, fuel = budget + 1 + 1 := ⟨fuel - 2, by omega⟩
      have hitem := value?_of_spells item htext budget (after ++ ',' :: (more ++ ']' :: rest))
        (by omega) (hafter.endsNumber_append (endsNumber_cons (by decide) _))
      have hitems := items?_of_spells (other :: items) (List.cons_ne_nil other items) hmore
        (budget + 1) rest (by omega)
      refine items?_cons ?_ hafter hitems
      simp only [List.append_assoc, List.cons_append]
      rw [hbefore.value?_append]
      exact hitem

theorem members?_of_spells (members : List (Option String × Json)) (hne : members ≠ [])
    {cs : List Char} (h : SpellsMembers members cs) (fuel : Nat) (rest : List Char)
    (hfuel : cs.length < fuel) :
    members? fuel (cs ++ '\x7d' :: rest) = some (members, rest) := by
  match members, hne, h with
  | [(name, value)], _, h =>
      obtain ⟨second, ⟨before, text, after, rfl, hbefore, htext, hafter⟩, hlength, hstart⟩ :=
        exists_of_spellsMember h
      obtain ⟨named, spaces, hquote, hname, hspaces⟩ := hstart ('\x7d' :: rest)
      simp only [List.length_append] at hlength
      obtain ⟨budget, rfl⟩ : ∃ budget, fuel = budget + 1 + 1 := ⟨fuel - 2, by omega⟩
      have hvalue := value?_of_spells value htext budget (after ++ '\x7d' :: rest) (by omega)
        (hafter.endsNumber_append (endsNumber_cons (by decide) rest))
      refine members?_last hquote hname hspaces ?_ hafter
      rw [List.append_assoc, List.append_assoc, hbefore.value?_append]
      exact hvalue
  | (name, value) :: other :: members, _, h =>
      obtain ⟨first, more, rfl, hfirst, hmore⟩ := h
      obtain ⟨second, ⟨before, text, after, rfl, hbefore, htext, hafter⟩, hlength, hstart⟩ :=
        exists_of_spellsMember hfirst
      obtain ⟨named, spaces, hquote, hname, hspaces⟩ := hstart (',' :: (more ++ '\x7d' :: rest))
      simp only [List.length_append, List.length_cons] at hlength hfuel
      obtain ⟨budget, rfl⟩ : ∃ budget, fuel = budget + 1 + 1 := ⟨fuel - 2, by omega⟩
      have hvalue := value?_of_spells value htext budget
        (after ++ ',' :: (more ++ '\x7d' :: rest)) (by omega)
        (hafter.endsNumber_append (endsNumber_cons (by decide) _))
      have hmembers := members?_of_spells (other :: members) (List.cons_ne_nil other members) hmore
        (budget + 1) rest (by omega)
      rw [List.append_assoc, List.cons_append]
      refine members?_cons hquote hname hspaces ?_ hafter hmembers
      rw [List.append_assoc, List.append_assoc, hbefore.value?_append]
      exact hvalue

end

/-- **However a document is spelled, with blanks around it or not, it is read.** -/
theorem parse?_of_spells {j : Json} {text : String} (h : Spaced j.Spells text.toList) :
    parse? text = some j := by
  obtain ⟨before, cs, after, heq, hbefore, hcs, hafter⟩ := h
  have hlength : cs.length ≤ text.toList.length + 1 := by
    rw [heq, List.length_append, List.length_append]
    omega
  have hread := value?_of_spells j hcs text.toList.length (after ++ []) hlength
    (hafter.endsNumber_append nofun)
  have hend : skipSpace after = [] := List.dropWhile_eq_nil_iff.2 hafter
  rw [List.append_nil, ← hbefore.value?_append, ← heq] at hread
  unfold parse?
  simp only [hread, Option.bind_eq_bind, Option.bind_some, hend]
  rfl

end AudioLibrary.Json
