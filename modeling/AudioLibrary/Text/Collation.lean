/-!
# Text order without letter case

`compareIgnoringCase` orders texts by their code points after folding ASCII capitals, which is also
the order of the folded texts' UTF-8 bytes.  Texts that agree up to a shared U+0000 are told apart
by their length in bytes alone.
-/

namespace AudioLibrary.Text

/-- The number of bytes of the UTF-8 form. -/
def byteLength (s : List Char) : Nat :=
  s.foldl (fun n c => n + c.utf8Size) 0

/-- ASCII capitals become small letters; every other character stays. -/
def foldCase (s : List Char) : List Char :=
  s.map Char.toLower

/-- Order by folded code points; past a U+0000 that both texts share only lengths count. -/
def compareIgnoringCase : List Char → List Char → Ordering
  | [], [] => .eq
  | [], _ :: _ => .lt
  | _ :: _, [] => .gt
  | c :: s, d :: t =>
      if c = '\x00' ∧ d = '\x00' then compare (byteLength s) (byteLength t)
      else (compare c.toLower d.toLower).then (compareIgnoringCase s t)

@[simp] theorem foldCase_nil : foldCase [] = [] := rfl

@[simp] theorem foldCase_append (s t : List Char) :
    foldCase (s ++ t) = foldCase s ++ foldCase t := by
  simp [foldCase]

theorem compareIgnoringCase_self (s : List Char) : compareIgnoringCase s s = .eq := by
  induction s with
  | nil => rfl
  | cons c s ih => by_cases h : c = '\x00' <;> simp [compareIgnoringCase, h, ih]

end AudioLibrary.Text
