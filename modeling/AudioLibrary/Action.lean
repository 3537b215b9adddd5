import AudioLibrary.Error
import AudioLibrary.Log.Entry

/-!
# Actions

A call on the library works on a state, emits log events in order and may fail.  A failed action
keeps the state and the log as they stood at the failure.
-/

namespace AudioLibrary

/-- What an action works on. -/
structure Session (σ : Type) where
  state : σ
  /-- The events so far, oldest first. -/
  log : List LogEvent := []
  /-- The call that events belong to. -/
  span : Option String := none

/-- A computation over a session. -/
abbrev Logged (σ : Type) := StateM (Session σ)

/-- A computation over a session that may fail. -/
abbrev Action (ε σ : Type) := ExceptT ε (Logged σ)

namespace Logged

variable {σ τ α ε : Type}

/-- Adds events to the log, each within the current span. -/
def emitAll (events : List LogEvent) : Logged σ Unit :=
  modify fun s => { s with log := s.log ++ events.map (·.within s.span) }

def emit (event : LogEvent) : Logged σ Unit := emitAll [event]

/-- Runs a computation within a span. -/
def inSpan (name : String) (x : Logged σ α) : Logged σ α := fun s =>
  let (a, s') := x { s with span := some name }
  (a, { s' with span := s.span })

/-- Runs a computation on a part of the state. -/
def onPart (get : τ → σ) (set : σ → τ → τ) (x : Logged σ α) : Logged τ α := fun s =>
  let (a, s') := x { state := get s.state, log := s.log, span := s.span }
  (a, { state := set s'.state s.state, log := s'.log, span := s'.span })

end Logged

namespace Action

variable {σ τ α ε : Type}

def emit (event : LogEvent) : Action ε σ Unit := ExceptT.lift (Logged.emit event)

def inSpan (name : String) (x : Action ε σ α) : Action ε σ α := Logged.inSpan name x.run

def onPart (get : τ → σ) (set : σ → τ → τ) (x : Action ε σ α) : Action ε τ α :=
  Logged.onPart get set x.run

/-- The state. -/
def getState : Action ε σ σ := fun s => (.ok s.state, s)

def setState (state : σ) : Action ε σ Unit := fun s => (.ok (), { s with state })

def modifyState (f : σ → σ) : Action ε σ Unit := fun s => (.ok (), { s with state := f s.state })

/-- What a capability of the host gives. -/
def ofBridge (result : Except BridgeError α) : Action LibraryError σ α := fun s =>
  (result.mapError .bridge, s)

/-- Runs an action on a fresh session over a state. -/
def start (x : Action ε σ α) (state : σ) : Except ε α × Session σ := x.run { state }

end Action

end AudioLibrary
