import AudioLibrary.Number.Power
import AudioLibrary.Text.Blank
import AudioLibrary.Time.Instant

/-!
# Written timestamps

`print` writes an instant in universal time as `2023-11-14T22:13:20.5Z` is written, with 0, 3, 6 or
9 fraction digits; a year outside 0 to 9999 carries its sign.  `parse?` reads that form with any
offset, and is lenient about blanks between the parts, the case of the letters and a missing zero.
-/

namespace AudioLibrary.Time.Timestamp

open AudioLibrary.Text

/-! ## Writing -/

/-- A natural in at least `width` digits. -/
def padded (width n : Nat) : List Char :=
  let ds := Nat.toDigits 10 n
  List.replicate (width - ds.length) '0' ++ ds

/-- A year in at least four digits, signed if it is outside 0 to 9999. -/
def printYear (year : Int) : List Char :=
  if year < 0 then '-' :: padded 4 year.natAbs
  else if year ≤ 9999 then padded 4 year.natAbs
  else '+' :: padded 4 year.natAbs

def printDate (d : Date) : List Char :=
  printYear d.year ++ '-' :: padded 2 d.month ++ '-' :: padded 2 d.day

def printTime (t : Instant) : List Char :=
  padded 2 t.hour ++ ':' :: padded 2 t.minute ++ ':' :: padded 2 t.second

/-- The fraction of a second in as few groups of three digits as hold it. -/
def printFraction (nanos : Nat) : List Char :=
  if nanos = 0 then []
  else if nanos % 1000000 = 0 then '.' :: padded 3 (nanos / 1000000)
  else if nanos % 1000 = 0 then '.' :: padded 6 (nanos / 1000)
  else '.' :: padded 9 nanos

def print (t : Instant) : String :=
  String.ofList (printDate t.date ++ 'T' :: printTime t ++ printFraction t.fraction ++ ['Z'])

/-- The form of log lines on a console: a blank between date and time, always milliseconds. -/
def printPlain (t : Instant) : String :=
  String.ofList
    (printDate t.date ++ ' ' :: printTime t ++ '.' :: padded 3 (t.fraction / 1000000))

/-! ## Reading -/

def skipBlanks (cs : List Char) : List Char := cs.dropWhile isBlank

/-- One to `width` digits, and what follows them. -/
def digits? (width : Nat) (cs : List Char) : Option (Nat × List Char) :=
  match (cs.take width).takeWhile Char.isDigit with
  | [] => none
  | ds => some (Nat.ofDigitChars 10 ds 0, cs.drop ds.length)

/-- A number of at most two digits, after blanks. -/
def pair? (cs : List Char) : Option (Nat × List Char) := digits? 2 (skipBlanks cs)

/-- A year: up to four digits, or a sign and any number of them. -/
def year? (cs : List Char) : Option (Int × List Char) :=
  match skipBlanks cs with
  | '-' :: rest => (digits? rest.length rest).map fun (n, rest) => (-(n : Int), rest)
  | '+' :: rest => (digits? rest.length rest).map fun (n, rest) => ((n : Int), rest)
  | rest => (digits? 4 rest).map fun (n, rest) => ((n : Int), rest)

/-- The given character, after blanks. -/
def mark? (c : Char) (cs : List Char) : Option (List Char) :=
  match skipBlanks cs with
  | d :: rest => if d = c then some rest else none
  | [] => none

def date? (cs : List Char) : Option (Date × List Char) := do
  let (year, cs) ← year? cs
  let (month, cs) ← pair? (← mark? '-' cs)
  let (day, cs) ← pair? (← mark? '-' cs)
  let date : Date := ⟨year, month, day⟩
  if date.isValid && Instant.yearRange.1 ≤ year && year ≤ Instant.yearRange.2 then
    return (date, cs)
  else none

/-- What stands between the date and the time. -/
def separator? : List Char → Option (List Char)
  | 'T' :: rest => some rest
  | 't' :: rest => some rest
  | ' ' :: rest => some rest
  | _ => none

/-- The nanoseconds of a fraction; digits beyond the ninth are passed over. -/
def nanos? : List Char → Option (Nat × List Char)
  | '.' :: rest =>
      match rest.takeWhile Char.isDigit with
      | [] => none
      | ds =>
          let kept := ds.take 9
          some (Nat.ofDigitChars 10 kept 0 * 10 ^ (9 - kept.length), rest.drop ds.length)
  | cs => some (0, cs)

/-- Seconds of the day and nanoseconds; second 60 runs on after second 59. -/
def time? (cs : List Char) : Option ((Nat × Nat) × List Char) := do
  let (hour, cs) ← pair? cs
  let (minute, cs) ← pair? (← mark? ':' cs)
  let (second, cs) ← pair? (← mark? ':' cs)
  let (nanos, cs) ← nanos? cs
  if 23 < hour ∨ 59 < minute ∨ 60 < second then none
  else
    let leap := second == 60
    let total := hour * 3600 + minute * 60 + if leap then 59 else second
    return ((total, nanos + if leap then 1000000000 else 0), cs)

/-- Two digits, and what follows them. -/
def twoDigits? : List Char → Option (Nat × List Char)
  | a :: b :: rest =>
      if a.isDigit && b.isDigit then some (Nat.ofDigitChars 10 [a, b] 0, rest) else none
  | _ => none

/-- The sign of an offset: `true` for minus. -/
def sign? : List Char → Option (Bool × List Char)
  | '+' :: rest => some (false, rest)
  | '-' :: rest => some (true, rest)
  -- the minus sign proper
  | '\u2212' :: rest => some (true, rest)
  | _ => none

/-- Seconds east of universal time. -/
def offset? (cs : List Char) : Option (Int × List Char) :=
  match skipBlanks cs with
  | 'Z' :: rest => some (0, rest)
  | 'z' :: rest => some (0, rest)
  | cs =>
      if (cs.take 3).map Char.toLower = ['u', 't', 'c'] then some (0, cs.drop 3)
      else do
        let (minus, cs) ← sign? cs
        let (hours, cs) ← twoDigits? cs
        let (minutes, cs) ← twoDigits? (cs.dropWhile fun c => c = ':' || isBlank c)
        if 59 < minutes ∨ 23 < hours then none
        else
          let seconds : Int := hours * 3600 + minutes * 60
          return (if minus then -seconds else seconds, cs)

/-- The instant that a text spells. -/
def parse? (text : String) : Option Instant := do
  let (date, cs) ← date? text.toList
  let ((second, nanos), cs) ← time? (← separator? cs)
  let (offset, cs) ← offset? cs
  let t : Instant := ⟨date.toDays * 86400 + second - offset, nanos⟩
  if (skipBlanks cs).isEmpty && t.inRange then return t else none

end AudioLibrary.Time.Timestamp
