import AudioLibrary.Time.Calendar

/-!
# Instants

An instant is a number of seconds since 1970-01-01T00:00:00Z and a number of nanoseconds.  Within
a leap second the nanoseconds run on beyond a full second.
-/

namespace AudioLibrary.Time

structure Instant where
  seconds : Int
  nanos : Nat := 0
deriving DecidableEq, Repr, Inhabited

namespace Instant

/-- The instant a number of milliseconds after 1970-01-01T00:00:00Z. -/
def ofMillis (ms : Int) : Instant := ⟨ms / 1000, (ms % 1000).toNat * 1000000⟩

/-- Milliseconds since 1970-01-01T00:00:00Z. -/
def toMillis (t : Instant) : Int := t.seconds * 1000 + (t.nanos / 1000000 : Nat)

def date (t : Instant) : Date := .ofDays (t.seconds / 86400)

def secondOfDay (t : Instant) : Nat := (t.seconds % 86400).toNat

def hour (t : Instant) : Nat := t.secondOfDay / 3600

def minute (t : Instant) : Nat := t.secondOfDay / 60 % 60

/-- The second of the minute; 60 within a leap second. -/
def second (t : Instant) : Nat := t.secondOfDay % 60 + if 1000000000 ≤ t.nanos then 1 else 0

/-- The nanoseconds of the second. -/
def fraction (t : Instant) : Nat := t.nanos % 1000000000

/-- The first and the last year that an instant may fall in. -/
def yearRange : Int × Int := (-262143, 262142)

/-- Whether the instant falls in a year of the range. -/
def inRange (t : Instant) : Bool :=
  yearRange.1 ≤ t.date.year && t.date.year ≤ yearRange.2

theorem toMillis_ofMillis (ms : Int) : (ofMillis ms).toMillis = ms := by
  simp only [ofMillis, toMillis]
  omega

end Instant

end AudioLibrary.Time
