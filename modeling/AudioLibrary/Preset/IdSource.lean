/-!
# Fresh ids

An `IdSource` gives an id for each time that it is asked, as a clock gives instants.
-/

namespace AudioLibrary

structure IdSource where
  /-- The id of each drawing, counted from zero. -/
  id : Nat → String
  /-- How often an id has been drawn. -/
  drawn : Nat := 0

namespace IdSource

/-- Ids that count from one after a word. -/
def numbered (word : String) : IdSource := { id := fun n => word ++ toString (n + 1) }

/-- An id, and the source after it. -/
def draw (s : IdSource) : String × IdSource := (s.id s.drawn, { s with drawn := s.drawn + 1 })

end IdSource

end AudioLibrary
