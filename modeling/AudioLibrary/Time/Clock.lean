import AudioLibrary.Time.Instant

/-!
# Clocks

A clock gives an instant for each reading.
-/

namespace AudioLibrary.Time

structure Clock where
  /-- The instant of each reading, counted from zero. -/
  instant : Nat → Instant
  /-- How often the clock has been read. -/
  readings : Nat := 0

namespace Clock

/-- The clock that moves on by the same number of milliseconds with each reading. -/
def steady (startMillis stepMillis : Int) : Clock :=
  { instant := fun n => .ofMillis (startMillis + n * stepMillis) }

/-- A reading, and the clock after it. -/
def read (c : Clock) : Instant × Clock :=
  (c.instant c.readings, { c with readings := c.readings + 1 })

end Clock

end AudioLibrary.Time
