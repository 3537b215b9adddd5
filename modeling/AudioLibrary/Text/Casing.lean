import AudioLibrary.Text.CasingTable
import AudioLibrary.Text.Ranges

/-!
# Full lower case

`lowercase` applies the full mapping of the standard: one-to-one images, the dotted capital I,
which becomes two characters, and the capital sigma, whose image depends on whether it ends a word.
-/

namespace AudioLibrary.Text

/-- Whether the character has letter case. -/
def isCased (c : Char) : Bool := inRanges casedRanges c.toNat

/-- Whether the character is passed over when the end of a word is looked for. -/
def isCaseIgnorable (c : Char) : Bool := inRanges caseIgnorableRanges c.toNat

/-- The lower case image of a character whose image does not depend on its neighbours. -/
def lowercaseChar (c : Char) : List Char :=
  if c.toNat < 0x80 then [c.toLower]
  else if c = '\u0130' then ['i', '\u0307']
  else
    match lowerRuns.find? fun (first, last, step, _) =>
        first ≤ c.toNat && c.toNat ≤ last && (c.toNat - first) % step == 0 with
    | some (first, _, _, image) => [Char.ofNat (image + (c.toNat - first))]
    | none => [c]

/-- Whether the next character that counts is a letter with case. -/
def continuesWord (s : List Char) : Bool :=
  match s.dropWhile isCaseIgnorable with
  | [] => false
  | c :: _ => isCased c

/-- `lowercaseFrom before rest` is the image of `rest`, where `before` is the text passed so far,
last character first. -/
def lowercaseFrom (before : List Char) : List Char → List Char
  | [] => []
  | c :: rest =>
      (if c = '\u03A3' then
        -- a sigma ends a word if letters stand before it and none after it
        [if continuesWord before && !continuesWord rest then '\u03C2' else '\u03C3']
      else lowercaseChar c) ++ lowercaseFrom (c :: before) rest

/-- The full lower case form. -/
def lowercase (s : List Char) : List Char := lowercaseFrom [] s

end AudioLibrary.Text
