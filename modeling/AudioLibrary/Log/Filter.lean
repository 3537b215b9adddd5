import AudioLibrary.Log.Pattern.Check
import AudioLibrary.Text.Alphanumeric
import AudioLibrary.Text.Blank
import AudioLibrary.Text.Casing
import AudioLibrary.Text.Collation

/-!
# Log filters

A filter is a list of directives between commas, such as `core_library=trace` or
`core_library[query_albums]=debug`.  A directive names a target or a span, a level, or both; a span
may be told by the value of a field, as in `[query{id=7}]`.  `check` says whether a filter can be
read.

Positions are found in a directive without the blanks around it, but fields and levels are cut from
the directive as it was given, so a directive that starts with blanks and sets a level is refused.
-/

namespace AudioLibrary.LogFilter

/-- Why a filter cannot be read. -/
inductive Refusal where
  | directive
  | level
  | field (why : LogPattern.Refusal)
deriving DecidableEq, Repr

def Refusal.message : Refusal → String
  | directive => "invalid filter directive"
  | level =>
      "error parsing level filter: expected one of \"off\", \"error\", \"warn\", \"info\", " ++
        "\"debug\", \"trace\", or a number 0-5"
  | field why => "invalid field filter: " ++ why.message

/-! ## Levels -/

/-- The names of levels. -/
def levelNames : List String := ["off", "error", "warn", "info", "debug", "trace"]

/-- The number that decimal digits spell, perhaps after a plus sign. -/
def number? (cs : List Char) : Option Nat :=
  let digits := match cs with
    | '+' :: rest => rest
    | _ => cs
  if !digits.isEmpty && digits.all Char.isDigit then
    some (digits.foldl (fun n d => 10 * n + (d.toNat - '0'.toNat)) 0)
  else none

/-- Whether a text names a level; nothing stands for the finest. -/
def isLevel (cs : List Char) : Bool :=
  cs.isEmpty || (number? cs).any (· < levelNames.length) ||
    levelNames.any fun name => name.toList == Text.foldCase cs

/-! ## Fields -/

/-- What is left of a number's digits, if there are any. -/
def afterDigits (cs : List Char) : Option (List Char) :=
  if cs.head?.any Char.isDigit then some (cs.dropWhile Char.isDigit) else none

/-- What is left after a sign, if there is one. -/
def afterSign : List Char → List Char
  | '+' :: cs | '-' :: cs => cs
  | cs => cs

/-- What is left after a number with a point; digits must stand before or after the point. -/
def afterDecimal (cs : List Char) : Option (List Char) :=
  match afterDigits cs, (afterDigits cs).getD cs with
  | some _, '.' :: rest => some ((afterDigits rest).getD rest)
  | some rest, _ => some rest
  | none, '.' :: rest => afterDigits rest
  | none, _ => none

/-- Whether a text is a number, perhaps with an exponent, or the name of what is no finite one. -/
def isNumber (cs : List Char) : Bool :=
  let cs := afterSign cs
  ["inf", "infinity", "nan"].contains (String.ofList (Text.foldCase cs)) ||
    match afterDecimal cs with
    | some [] => true
    | some (c :: rest) => (c = 'e' || c = 'E') && afterDigits (afterSign rest) = some []
    | none => false

/-- Whether the value of a field can be matched.  What is neither a truth value nor a number is a
pattern. -/
def checkValue (cs : List Char) : Except Refusal Unit :=
  if cs = "true".toList ∨ cs = "false".toList ∨ isNumber cs then .ok ()
  else (LogPattern.check cs).mapError .field

/-- Whether a field can be matched: it has a name and perhaps a value after an equals sign; what
stands after a second sign does not count. -/
def checkField (cs : List Char) : Except Refusal Unit :=
  match cs.splitOnP (· = '=') with
  | _ :: value :: _ => checkValue value
  | _ => .ok ()

/-! ## Directives -/

/-- What has been read of a directive.  Positions are counted in bytes. -/
inductive Place where
  | start
  | levelOrTarget
  | span
  | field (since : Nat)
  | fields
  | target
  | level (since : Nat)
deriving DecidableEq, Repr

/-- Whether a directive may start with the character. -/
def opens (c : Char) : Bool :=
  c = '-' || c = ':' || c = '_' || Text.isAlphanumeric c

/-- A text from a byte on. -/
def fromByte : Nat → List Char → List Char
  | _, [] => []
  | 0, cs => cs
  | n, c :: cs => fromByte (n - c.utf8Size) cs

/-- A text up to a byte. -/
def untilByte : Nat → List Char → List Char
  | 0, _ | _, [] => []
  | n, c :: cs => c :: untilByte (n - c.utf8Size) cs

/-- A text between two bytes. -/
def betweenBytes (first last : Nat) (cs : List Char) : List Char :=
  untilByte (last - first) (fromByte first cs)

/-- The place after a character at a position of a directive; `given` is the directive as it was
given. -/
def Place.next (given : List Char) (position : Nat) (c : Char) : Place → Except Refusal Place
  | start => if c = '[' then .ok span else if opens c then .ok levelOrTarget else .error .directive
  | levelOrTarget =>
      .ok (if c = '=' then level (position + 1) else if c = '[' then span else levelOrTarget)
  | span => .ok (if c = ']' then target else if c = '\x7b' then field (position + 1) else span)
  | field since =>
      if c = '\x7d' then
        if since = position then .error .directive
        else (checkField (betweenBytes since position given)).map fun _ => fields
      else .ok (field since)
  | fields => if c = ']' then .ok target else .error .directive
  | target => if c = '=' then .ok (level (position + 1)) else .error .directive
  | level since => .ok (level since)

/-- The place after a text that starts at a position. -/
def Place.run (given : List Char) (place : Place) (position : Nat) :
    List Char → Except Refusal Place
  | [] => .ok place
  | c :: cs => do
      let next ← place.next given position c
      next.run given (position + c.utf8Size) cs

/-- Whether a directive can be read. -/
def checkDirective (cs : List Char) : Except Refusal Unit := do
  match ← Place.start.run cs 0 (Text.trim Text.isBlank cs) with
  | .levelOrTarget | .target => return
  -- the position was found without the blanks, the level is cut with them
  | .level since => if isLevel (fromByte since cs) then return else throw .level
  | _ => throw .directive

/-- Whether a filter can be read; empty directives are passed over. -/
def check (filter : String) : Except Refusal Unit :=
  ((filter.toList.splitOnP (· = ',')).filter (· ≠ [])).forM checkDirective

end AudioLibrary.LogFilter
