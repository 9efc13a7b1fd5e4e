import RepoSurvey.Survey.Window

/-!
# Where content comes from

A survey uses the sources of its files for nothing but loading them.  So sources may be replaced by
others, if the same is loaded from them.
-/

namespace RepoSurvey

variable {σ Source Other : Type}

/-- The same file with another source. -/
def Pending.map (change : Source → Other) (file : Pending Source) : Pending Other :=
  ⟨file.path, file.sizeHint, change file.source⟩

def Flight.map (change : Source → Other) (flight : Flight Source) : Flight Other :=
  ⟨change flight.source, flight.progress⟩

/-- Services that load from a source what is loaded from the other source that replaces it. -/
def Services.comap {m : Type → Type} (services : Services m Other) (change : Source → Other) :
    Services m Source :=
  { services with load := fun source => services.load (change source) }

namespace Window

/-- Windows that are changed alike go through the same run, if the same is possible for them and each event
comes to the same. -/
theorem run_alike {languages : Languages} {settings : RecordSettings}
    {services : Services (StateM σ) Source} {others : Services (StateM σ) Other}
    {change : Window Source → Window Other} {limit : Nat}
    (possible_eq : ∀ window : Window Source,
      (change window).possible limit = window.possible limit)
    (after_eq : ∀ (window : Window Source) (event : Event),
      (change window).after languages settings others limit event =
        change <$> window.after languages settings services limit event)
    (choose : List Event → StateM σ Nat) (events : Nat) (window : Window Source) :
    run languages settings others choose limit events (change window) =
      change <$> run languages settings services choose limit events window := by
  induction events generalizing window with
  | zero => rfl
  | succ events ih =>
      rw [run, run, possible_eq]
      cases window.possible limit with
      | nil => rfl
      | cons first later => simp only [after_eq, map_bind, bind_map_left, ih]

def map (change : Source → Other) (window : Window Source) : Window Other :=
  ⟨window.delivered, window.inFlight.map (.map change), window.waiting.map (.map change)⟩

variable (languages : Languages) (settings : RecordSettings)
  (services : Services (StateM σ) Other) (change : Source → Other)

theorem next_comap (source : Source) (progress : Progress) :
    progress.next languages settings (services.comap change) source =
      progress.next languages settings services (change source) := by
  cases progress <;> rfl

theorem possible_map (limit : Nat) (window : Window Source) :
    (window.map change).possible limit = window.possible limit := by
  simp [possible, map, Function.comp_def, Flight.map]

theorem after_map (limit : Nat) (window : Window Source) (event : Event) :
    (window.map change).after languages settings services limit event =
      map change <$> window.after languages settings (services.comap change) limit event := by
  obtain ⟨delivered, inFlight, waiting⟩ := window
  cases event with
  | takeUp =>
      cases waiting with
      | nil => rfl
      | cons pending rest =>
          simp only [after, map, List.map_cons, List.length_map]
          split
          · simp [map, Flight.map, Pending.map]
          · rfl
  | advance index =>
      simp only [after, map, List.getElem?_map]
      cases found : inFlight[index]? with
      | none => rfl
      | some flight =>
          simp [next_comap, map, Flight.map, List.map_set]
  | deliver =>
      cases inFlight with
      | nil => rfl
      | cons flight rest =>
          obtain ⟨source, progress⟩ := flight
          cases progress <;> rfl

theorem run_map (choose : List Event → StateM σ Nat) (limit events : Nat)
    (window : Window Source) :
    run languages settings services choose limit events (window.map change) =
      map change <$> run languages settings (services.comap change) choose limit events window :=
  run_alike (possible_map change limit) (after_map languages settings services change limit) choose
    events window

end Window

/-- Replacing the sources of files comes to the same as replacing what is loaded from them. -/
theorem recordFiles_map (languages : Languages) (settings : RecordSettings)
    (services : Services (StateM σ) Other) (change : Source → Other)
    (choose : List Window.Event → StateM σ Nat) (limit : Nat) (files : List (Pending Source)) :
    recordFiles languages settings services choose limit (files.map (.map change)) =
      recordFiles languages settings (services.comap change) choose limit files := by
  have start : ({ waiting := files.map (.map change) } : Window Other) =
      Window.map change { waiting := files } := rfl
  rw [recordFiles, recordFiles, List.length_map, start, Window.run_map, bind_map_left]
  rfl

end RepoSurvey
