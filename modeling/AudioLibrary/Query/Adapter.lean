import AudioLibrary.Action
import AudioLibrary.Relational.Select

/-!
# Adapters

An `Adapter` is a store as the library sees it: it answers statements, in any way it likes, with
rows or an error, may log, and carries a state of its own from answer to answer.

`recorded` keeps what was sent, and `scripted` answers from a list.
-/

namespace AudioLibrary

open AudioLibrary.Relational

/-- What an adapter gives for one statement. -/
structure Answer (σ α : Type) where
  result : Except BridgeError α
  events : List LogEvent := []
  state : σ

namespace Answer

variable {σ τ α : Type}

/-- The answer seen from a larger state. -/
def mapState (f : σ → τ) (a : Answer σ α) : Answer τ α :=
  { result := a.result, events := a.events, state := f a.state }

/-- The answer as a step of an action. -/
def toAction (answer : σ → Answer σ α) : Action LibraryError σ α := fun s =>
  let a := answer s.state
  (a.result.mapError .bridge,
    { s with state := a.state, log := s.log ++ a.events.map (·.within s.span) })

end Answer

structure Adapter (σ : Type) where
  /-- All rows. -/
  query : Statement → σ → Answer σ (List Row)
  /-- The one row that there must be. -/
  queryOne : Statement → σ → Answer σ Row
  /-- The first row, if there is one. -/
  queryOptional : Statement → σ → Answer σ (Option Row)

namespace Adapter

variable {σ : Type}

/-! ## Keeping what was sent -/

/-- How many rows a statement was sent for. -/
inductive Method where
  | all
  | one
  | optional
deriving DecidableEq, Repr

/-- A statement on its way to the store. -/
structure Sent where
  method : Method
  statement : Statement

/-- The adapter that also keeps what it was sent, oldest first. -/
def recorded (a : Adapter σ) : Adapter (σ × List Sent) where
  query s state := (a.query s state.1).mapState (·, state.2 ++ [⟨.all, s⟩])
  queryOne s state := (a.queryOne s state.1).mapState (·, state.2 ++ [⟨.one, s⟩])
  queryOptional s state := (a.queryOptional s state.1).mapState (·, state.2 ++ [⟨.optional, s⟩])

/-! ## Answers from a list -/

/-- The answers that are left. -/
abbrev Script := List (Except BridgeError (List Row))

/-- The next answer of a script. -/
def nextAnswer : Script → Answer Script (List Row)
  | [] => { result := .error (.notAvailable "no scripted response"), state := [] }
  | result :: rest => { result, state := rest }

/-- The adapter that answers from a script, whatever it is sent. -/
def scripted : Adapter Script where
  query _ script := nextAnswer script
  queryOne _ script :=
    let a := nextAnswer script
    { a with result := a.result.bind fun rows =>
        match rows with
        | row :: _ => .ok row
        | [] => .error (.database "no rows") }
  queryOptional _ script :=
    let a := nextAnswer script
    { a with result := a.result.map List.head? }

end Adapter

end AudioLibrary
