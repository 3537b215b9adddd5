import AudioLibrary.Action

/-!
# Actions, step by step

What an action gives and leaves behind, from what its parts do.
-/

namespace AudioLibrary.Action

variable {ε σ α β : Type} {s s' : Session σ}

/-- An action goes on after a part that succeeds. -/
theorem run_bind_ok {x : Action ε σ α} {f : α → Action ε σ β} {a : α}
    (h : x.run s = (.ok a, s')) : (x >>= f).run s = (f a).run s' := by
  show (ExceptT.bindCont f (x.run s).1) (x.run s).2 = _
  rw [h]
  rfl

/-- An action ends with a part that fails. -/
theorem run_bind_error {x : Action ε σ α} {f : α → Action ε σ β} {e : ε}
    (h : x.run s = (.error e, s')) : (x >>= f).run s = (.error e, s') := by
  show (ExceptT.bindCont f (x.run s).1) (x.run s).2 = _
  rw [h]
  rfl

theorem run_map_ok {x : Action ε σ α} (g : α → β) {a : α} (h : x.run s = (.ok a, s')) :
    (g <$> x).run s = (.ok (g a), s') :=
  run_bind_ok h

theorem run_map_error {x : Action ε σ α} (g : α → β) {e : ε} (h : x.run s = (.error e, s')) :
    (g <$> x).run s = (.error e, s') :=
  run_bind_error h

/-- An event changes the log alone. -/
theorem run_emit (event : LogEvent) (s : Session σ) :
    (emit event : Action ε σ Unit).run s =
      (.ok (), { s with log := s.log ++ [event.within s.span] }) := rfl

end AudioLibrary.Action
