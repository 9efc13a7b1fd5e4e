import Mathlib.Control.Lawful

/-!
# Running actions

An action works on a state, and it may fail.  What a run of several actions comes to is told by the runs of
each of them.
-/

namespace RepoSurvey

variable {σ ε ε' α β : Type}

theorem run_map_fst (change : α → β) (action : StateM σ α) (state : σ) :
    ((change <$> action).run state).1 = change (action.run state).1 := rfl

theorem run_adapt {m : Type → Type} [Monad m] (change : ε → ε') (action : ExceptT ε m α) :
    (ExceptT.adapt change action).run = Except.mapError change <$> action.run := rfl

theorem run_bind (action : ExceptT ε (StateM σ) α) (next : α → ExceptT ε (StateM σ) β) (state : σ) :
    (action >>= next).run.run state =
      match action.run.run state with
      | (.ok value, later) => (next value).run.run later
      | (.error error, later) => (.error error, later) := by
  change (match (action.run.run state).1 with
    | .ok value => (next value).run
    | .error error => pure (.error error) : StateM σ (Except ε β)).run (action.run.run state).2 = _
  generalize action.run.run state = outcome
  obtain ⟨error | value, later⟩ := outcome <;> rfl

theorem run_tryCatch (action : ExceptT ε (StateM σ) α) (rescue : ε → ExceptT ε (StateM σ) α)
    (state : σ) :
    (tryCatch action rescue).run.run state =
      match action.run.run state with
      | (.ok value, later) => (.ok value, later)
      | (.error error, later) => (rescue error).run.run later := by
  change (match (action.run.run state).1 with
    | .ok value => pure (.ok value)
    | .error error => (rescue error).run : StateM σ (Except ε α)).run (action.run.run state).2 = _
  generalize action.run.run state = outcome
  obtain ⟨error | value, later⟩ := outcome <;> rfl

/-- What is known beforehand does not have to be run. -/
theorem mk_ok_bind (value : α) (next : α → ExceptT ε (StateM σ) β) :
    (ExceptT.mk (pure (.ok value)) >>= next) = next value :=
  rfl

theorem mk_error_bind (error : ε) (next : α → ExceptT ε (StateM σ) β) :
    (ExceptT.mk (pure (.error error)) >>= next) = throw error :=
  rfl

end RepoSurvey
