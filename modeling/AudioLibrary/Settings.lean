import AudioLibrary.Error

/-!
# Settings

Texts under names, in the order of the names.  A `SettingsStore` is what a host offers: settings
that may refuse to be read or written.  A refused write leaves everything as it was.
-/

namespace AudioLibrary

/-- Texts under names, ascending by name. -/
structure Settings where
  entries : List (String × String) := []
deriving DecidableEq, Repr

namespace Settings

/-- Puts a text under a name into an ordered list. -/
def insertInto (key value : String) : List (String × String) → List (String × String)
  | [] => [(key, value)]
  | entry :: rest =>
      match compare key entry.1 with
      | .lt => (key, value) :: entry :: rest
      | .eq => (key, value) :: rest
      | .gt => entry :: insertInto key value rest

def set (s : Settings) (key value : String) : Settings := ⟨insertInto key value s.entries⟩

def get? (s : Settings) (key : String) : Option String := s.entries.lookup key

def erase (s : Settings) (key : String) : Settings := ⟨s.entries.filter (·.1 ≠ key)⟩

def contains (s : Settings) (key : String) : Bool := (s.get? key).isSome

/-- The names, ascending. -/
def keys (s : Settings) : List String := s.entries.map Prod.fst

private theorem lookup_insertInto_self (key value : String) (entries : List (String × String)) :
    (insertInto key value entries).lookup key = some value := by
  induction entries with
  | nil => simp [insertInto]
  | cons entry rest ih =>
      obtain ⟨k, v⟩ := entry
      unfold insertInto
      split
      · simp
      · simp
      · next h =>
          have hb : (key == k) = false := by
            rw [beq_eq_false_iff_ne]
            rintro rfl
            rw [Std.ReflOrd.compare_self] at h
            cases h
          simp [List.lookup_cons, hb, ih]

private theorem lookup_insertInto_of_ne {key other : String} (h : other ≠ key) (value : String)
    (entries : List (String × String)) :
    (insertInto key value entries).lookup other = entries.lookup other := by
  have hb : (other == key) = false := by simpa using h
  induction entries with
  | nil => simp [insertInto, hb]
  | cons entry rest ih =>
      obtain ⟨k, v⟩ := entry
      unfold insertInto
      split
      · simp [List.lookup_cons, hb]
      · next he =>
          obtain rfl : key = k := Std.LawfulEqOrd.eq_of_compare he
          simp [List.lookup_cons, hb]
      · simp [List.lookup_cons, ih]

@[simp] theorem get?_set_self (s : Settings) (key value : String) :
    (s.set key value).get? key = some value :=
  lookup_insertInto_self key value s.entries

theorem get?_set_of_ne {key other : String} (h : other ≠ key) (s : Settings) (value : String) :
    (s.set key value).get? other = s.get? other :=
  lookup_insertInto_of_ne h value s.entries

end Settings

/-- Settings as a host offers them. -/
structure SettingsStore where
  settings : Settings := {}
  /-- The error that reading gives, if it fails. -/
  readFailure : Option BridgeError := none
  /-- The error that writing gives, if it fails. -/
  writeFailure : Option BridgeError := none
deriving DecidableEq, Repr

namespace SettingsStore

def read (s : SettingsStore) (key : String) : Except BridgeError (Option String) :=
  match s.readFailure with
  | some e => .error e
  | none => .ok (s.settings.get? key)

def write (s : SettingsStore) (key value : String) : Except BridgeError SettingsStore :=
  match s.writeFailure with
  | some e => .error e
  | none => .ok { s with settings := s.settings.set key value }

end SettingsStore

end AudioLibrary
