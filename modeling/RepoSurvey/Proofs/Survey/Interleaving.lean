import Mathlib.Algebra.BigOperators.Group.List.Basic
import Mathlib.Algebra.GroupWithZero.Nat
import RepoSurvey.Proofs.Survey.Alone
import RepoSurvey.Survey.Run

/-!
# Files recorded at the same time

An event takes a file up, takes a file in flight through a stage, delivers the first record, or changes
nothing.  What holds of all runs of a window is shown for each of these, whatever the outside does.  Every
event that is possible brings a window nearer to its end, so no files are left after a run that has enough
events.

The records that come out of a window in the end stay the same whatever happens next: those delivered so
far, then those of the files in flight, then those of the files that wait.  So all records are delivered in
the order of the list, whichever events are chosen.
-/

namespace RepoSurvey

variable {σ Source : Type}

/-- Whatever the outside does, a stage brings a file nearer to its record. -/
theorem Progress.next_rank (languages : Languages) (settings : RecordSettings)
    (services : Services (StateM σ) Source) (source : Source) (progress : Progress) :
    Yields (progress.next languages settings services source) fun later =>
      progress.isFinished = false → later.rank < progress.rank := by
  intro state isUnfinished
  cases progress with
  | loading path sizeHint => exact rank_loaded path sizeHint _
  | parsing path content => exact rank_parsed languages settings path content _
  | queued record prompt => exact Nat.lt_succ_self 1
  | asking record prompt => exact rank_summarized record _
  | finished record => cases isUnfinished

namespace Window

/-- How many events may be left in a window. -/
def stagesLeft (window : Window Source) : Nat :=
  eventsPerFile * window.waiting.length +
    (window.inFlight.map fun flight => flight.progress.rank + 1).sum

theorem rank_start_lt (path : String) (sizeHint : Nat) :
    (Progress.start path sizeHint).rank + 1 < eventsPerFile := by
  rw [Progress.start]
  split <;> simp [Progress.rank, eventsPerFile]

theorem stagesLeft_waiting (files : List (Pending Source)) :
    stagesLeft { waiting := files } = eventsPerFile * files.length := by
  simp [stagesLeft]

/-! ## What is possible -/

section Possible

variable {limit : Nat} {window : Window Source}

theorem takeUp_possible (isPossible : Event.takeUp ∈ window.possible limit) :
    window.waiting ≠ [] ∧ window.inFlight.length < limit := by
  simp only [possible, List.mem_append, List.mem_map, reduceCtorEq, and_false, exists_false,
    or_false] at isPossible
  rcases isPossible with isDelivery | isTakeUp
  · split at isDelivery <;> simp at isDelivery
  · split at isTakeUp
    · rename_i mayTakeUp
      simpa [and_comm] using mayTakeUp
    · cases isTakeUp

theorem advance_possible {index : Nat}
    (isPossible : Event.advance index ∈ window.possible limit) :
    ∃ flight, window.inFlight[index]? = some flight ∧ flight.progress.isFinished = false := by
  simp only [possible, List.mem_append, List.mem_map, List.mem_filter, Event.advance.injEq,
    exists_eq_right] at isPossible
  rcases isPossible with (isDelivery | isTakeUp) | ⟨_, isUnfinished⟩
  · split at isDelivery <;> simp at isDelivery
  · split at isTakeUp <;> simp at isTakeUp
  · cases found : window.inFlight[index]? with
    | none => simp [found] at isUnfinished
    | some flight => exact ⟨flight, rfl, by simpa [found] using isUnfinished⟩

theorem deliver_possible (isPossible : Event.deliver ∈ window.possible limit) :
    ∃ flight rest, window.inFlight = flight :: rest ∧ flight.progress.isFinished = true := by
  simp only [possible, List.mem_append, List.mem_map, reduceCtorEq, and_false, exists_false,
    or_false] at isPossible
  rcases isPossible with isDelivery | isTakeUp
  · split at isDelivery
    · rename_i isFinished
      cases flights_eq : window.inFlight with
      | nil => simp [flights_eq] at isFinished
      | cons flight rest => exact ⟨flight, rest, rfl, by simpa [flights_eq] using isFinished⟩
    · cases isDelivery
  · split at isTakeUp <;> simp at isTakeUp

/-- No files are left. -/
structure IsDone (window : Window Source) : Prop where
  inFlight_eq : window.inFlight = []
  waiting_eq : window.waiting = []

/-- Something is possible as long as files are left. -/
theorem isDone_of_possible_eq_nil (hasRoom : 0 < limit) (nothing : window.possible limit = []) :
    window.IsDone := by
  simp only [possible, List.append_eq_nil_iff, List.map_eq_nil_iff, List.filter_eq_nil_iff] at nothing
  obtain ⟨⟨noDelivery, noFile⟩, noStage⟩ := nothing
  have noFlight : window.inFlight = [] := by
    cases flights_eq : window.inFlight with
    | nil => rfl
    | cons flight rest =>
        cases isFinished : flight.progress.isFinished with
        | true => simp [flights_eq, isFinished] at noDelivery
        | false =>
            have isFirst : 0 ∈ List.range window.inFlight.length := by simp [flights_eq]
            have notFirst := noStage 0 isFirst
            simp [flights_eq, isFinished] at notFirst
  refine ⟨noFlight, ?_⟩
  cases waiting_eq : window.waiting with
  | nil => rfl
  | cons pending rest => simp [noFlight, waiting_eq, hasRoom] at noFile

theorem isDone_of_stagesLeft_eq_zero (nothing : window.stagesLeft = 0) : window.IsDone := by
  rw [stagesLeft, eventsPerFile] at nothing
  constructor
  · cases flights_eq : window.inFlight with
    | nil => rfl
    | cons flight rest => simp [flights_eq] at nothing
  · exact List.eq_nil_of_length_eq_zero (by omega)

/-- What is chosen among several events is one of them. -/
theorem chosen_mem (first : Event) (others : List Event) (choice : Nat) :
    ((first :: others)[choice]?).getD first ∈ first :: others := by
  cases chosen : (first :: others)[choice]? with
  | none => exact List.mem_cons_self
  | some event => exact List.mem_of_getElem? chosen

end Possible

/-! ## One event -/

section Step

variable (languages : Languages) (settings : RecordSettings)
  (services : Services (StateM σ) Source) (limit : Nat)

/-- What an event makes of a window and of the state of the outside. -/
inductive Happens (window : Window Source) (state : σ) : Event → Window Source → σ → Prop
  | nothing {event : Event} (isImpossible : event ∉ window.possible limit) :
      Happens window state event window state
  | takenUp {pending : Pending Source} {rest : List (Pending Source)}
      (waiting_eq : window.waiting = pending :: rest) (hasRoom : window.inFlight.length < limit) :
      Happens window state .takeUp
        { window with
          inFlight := window.inFlight ++ [⟨pending.source, .start pending.path pending.sizeHint⟩]
          waiting := rest }
        state
  | advanced {front back : List (Flight Source)} {flight : Flight Source} {progress : Progress}
      {later : σ} (flights_eq : window.inFlight = front ++ flight :: back)
      (isNext : (flight.progress.next languages settings services flight.source).run state =
        (progress, later)) :
      Happens window state (.advance front.length)
        { window with inFlight := front ++ { flight with progress } :: back } later
  | delivered {source : Source} {record : FileRecord} {rest : List (Flight Source)}
      (flights_eq : window.inFlight = ⟨source, .finished record⟩ :: rest) :
      Happens window state .deliver
        { window with delivered := record :: window.delivered, inFlight := rest } state

/-- There is nothing else that an event can do. -/
theorem after_happens (window : Window Source) (state : σ) (event : Event) :
    let result := (window.after languages settings services limit event).run state
    Happens languages settings services limit window state event result.1 result.2 := by
  cases event with
  | takeUp =>
      rw [after]
      cases waiting_eq : window.waiting with
      | nil => exact .nothing fun isPossible => (takeUp_possible isPossible).1 waiting_eq
      | cons pending rest =>
          dsimp only
          split
          · rename_i hasRoom
            exact .takenUp waiting_eq hasRoom
          · rename_i noRoom
            exact .nothing fun isPossible => noRoom (takeUp_possible isPossible).2
  | advance index =>
      rw [after]
      cases found : window.inFlight[index]? with
      | none =>
          refine .nothing fun isPossible => ?_
          obtain ⟨flight, isThere, _⟩ := advance_possible isPossible
          rw [found] at isThere
          cases isThere
      | some flight =>
          obtain ⟨isIn, flight_eq⟩ := List.getElem?_eq_some_iff.mp found
          let stage := (flight.progress.next languages settings services flight.source).run state
          obtain ⟨front, back, flights_eq, rfl, set_eq⟩ :=
            @List.exists_of_set _ index { flight with progress := stage.1 } window.inFlight isIn
          rw [flight_eq] at flights_eq
          change Happens languages settings services limit window state _
            { window with
              inFlight := window.inFlight.set front.length { flight with progress := stage.1 } }
            stage.2
          rw [set_eq]
          exact .advanced flights_eq rfl
  | deliver =>
      rw [after]
      split
      · rename_i source record rest flights_eq
        exact .delivered flights_eq
      · rename_i notFinished
        refine .nothing fun isPossible => ?_
        obtain ⟨⟨source, progress⟩, rest, flights_eq, isFinished⟩ := deliver_possible isPossible
        cases progress with
        | finished record => exact notFinished source record rest flights_eq
        | _ => cases isFinished

variable {languages settings services limit} {window later : Window Source} {event : Event}
  {before behind : σ}

/-- An event that is possible brings a window nearer to its end. -/
theorem Happens.isNearer
    (happens : Happens languages settings services limit window before event later behind)
    (isPossible : event ∈ window.possible limit) : later.stagesLeft < window.stagesLeft := by
  cases happens with
  | nothing isImpossible => exact absurd isPossible isImpossible
  | @takenUp pending rest waiting_eq hasRoom =>
      have isShort := rank_start_lt pending.path pending.sizeHint
      simp only [stagesLeft, waiting_eq, List.length_cons, List.map_append, List.map_cons,
        List.map_nil, List.sum_append, List.sum_cons, List.sum_nil, eventsPerFile] at isShort ⊢
      omega
  | @advanced front back flight progress _ flights_eq isNext =>
      obtain ⟨other, found, isUnfinished⟩ := advance_possible isPossible
      obtain rfl : flight = other := by simpa [flights_eq] using found
      have isLess := flight.progress.next_rank languages settings services flight.source before
        isUnfinished
      rw [isNext] at isLess
      dsimp only at isLess
      simp only [stagesLeft, flights_eq, List.map_append, List.map_cons, List.sum_append,
        List.sum_cons]
      omega
  | delivered flights_eq => simp [stagesLeft, flights_eq, Progress.rank]

theorem Happens.keepsLimit
    (happens : Happens languages settings services limit window before event later behind)
    (keepsLimit : window.inFlight.length ≤ limit) : later.inFlight.length ≤ limit := by
  cases happens with
  | nothing isImpossible => exact keepsLimit
  | takenUp waiting_eq hasRoom =>
      rw [List.length_append, List.length_singleton]
      exact hasRoom
  | advanced flights_eq isNext => simpa [flights_eq] using keepsLimit
  | delivered flights_eq =>
      rw [flights_eq] at keepsLimit
      exact Nat.le_of_succ_le keepsLimit

/-! ## A whole run -/

variable (languages settings services limit) (choose : List Event → StateM σ Nat)
  (holds : σ → Window Source → Prop)
  (chosen : ∀ events state window, holds state window →
    holds ((choose events).run state).2 window)

include chosen in
/-- What holds of the outside and of a window, and is kept by every choice and by every event, holds at the
end of a run. -/
theorem run_holds
    (kept : ∀ {window before event later behind},
      Happens languages settings services limit window before event later behind →
        holds before window → holds behind later)
    (events : Nat) (window : Window Source) (state : σ) (isHeld : holds state window) :
    let result := (run languages settings services choose limit events window).run state
    holds result.2 result.1 := by
  induction events generalizing window state with
  | zero => exact isHeld
  | succ events ih =>
      rw [run]
      cases window.possible limit with
      | nil => exact isHeld
      | cons first others =>
          -- The event is one that is possible, but what holds is kept by every event.
          let choice := (choose (first :: others)).run state
          let event := ((first :: others)[choice.1]?).getD first
          let after := (window.after languages settings services limit event).run choice.2
          have happens := after_happens languages settings services limit window choice.2 event
          exact ih after.1 after.2 (kept happens (chosen _ _ _ isHeld))

/-- No files are left after a run that has enough events. -/
theorem run_isDone (hasRoom : 0 < limit) (events : Nat) (window : Window Source)
    (isEnough : window.stagesLeft ≤ events) :
    Yields (run languages settings services choose limit events window) IsDone := by
  induction events generalizing window with
  | zero => exact .pure (isDone_of_stagesLeft_eq_zero (Nat.le_zero.mp isEnough))
  | succ events ih =>
      rw [run]
      cases possible_eq : window.possible limit with
      | nil => exact .pure (isDone_of_possible_eq_nil hasRoom possible_eq)
      | cons first others =>
          refine (Yields.trivially _).bind fun choice _ state => ?_
          -- `stagesLeft` goes down with the event, so the events that remain are still enough.
          let event := ((first :: others)[choice]?).getD first
          let after := (window.after languages settings services limit event).run state
          have isPossible : event ∈ window.possible limit := by
            rw [possible_eq]
            exact chosen_mem first others choice
          have happens := after_happens languages settings services limit window state event
          have isNearer : after.1.stagesLeft < window.stagesLeft := happens.isNearer isPossible
          exact ih after.1 (by omega) after.2

/-- No files are left in the end. -/
theorem run_waiting_isDone (files : List (Pending Source)) :
    Yields (run languages settings services choose (max limit 1) (eventsPerFile * files.length)
      { waiting := files }) IsDone := by
  have hasRoom : 0 < max limit 1 := Nat.lt_of_lt_of_le Nat.one_pos (Nat.le_max_right limit 1)
  have isEnough := Nat.le_of_eq (stagesLeft_waiting files)
  exact run_isDone languages settings services (max limit 1) choose hasRoom _ _ isEnough

end Step

/-! ## The records that come out -/

section Expected

variable (outcomes : Outcomes Source) (languages : Languages) (settings : RecordSettings)

/-- The records that come out of a window in the end. -/
def expected (window : Window Source) : List FileRecord :=
  window.delivered.reverse ++
    (window.inFlight.map fun flight =>
        outcomes.completed languages settings flight.source flight.progress) ++
      window.waiting.map (outcomes.record languages settings)

end Expected

section Records

variable {services : Services (StateM σ) Source} {outcomes : Outcomes Source}
  (gives : services.Give outcomes) (languages : Languages) (settings : RecordSettings)
  (limit : Nat)

/-- Another window in which nothing is lost, and which is nearer to its end if the event was possible. -/
structure Follows (outcomes : Outcomes Source) (window : Window Source) (event : Event)
    (later : Window Source) : Prop where
  expected_eq :
    later.expected outcomes languages settings = window.expected outcomes languages settings
  keepsLimit : window.inFlight.length ≤ limit → later.inFlight.length ≤ limit
  isNearer : event ∈ window.possible limit → later.stagesLeft < window.stagesLeft

variable {languages settings limit} {window later : Window Source} {event : Event} {before behind : σ}

include gives

/-- What happens does not change the records that come out in the end. -/
theorem Happens.follows
    (happens : Happens languages settings services limit window before event later behind) :
    Follows languages settings limit outcomes window event later := by
  refine ⟨?_, happens.keepsLimit, happens.isNearer⟩
  cases happens with
  | nothing isImpossible => rfl
  | takenUp waiting_eq hasRoom => simp [expected, waiting_eq, Outcomes.record_eq_completed]
  | @advanced front back flight progress _ flights_eq isNext =>
      have same := flight.progress.next_yields gives languages settings flight.source before
      rw [isNext] at same
      dsimp only at same
      simp [expected, flights_eq, same]
  | delivered flights_eq => simp [expected, flights_eq, Outcomes.completed_finished]

variable (languages settings limit)

/-- Windows that can come about from some files, whatever happens and whatever the outside does. -/
inductive Reached (services : Services (StateM σ) Source) (files : List (Pending Source)) :
    Window Source → Prop
  | start : Reached services files { waiting := files }
  | after {window : Window Source} (reached : Reached services files window) (event : Event)
      (state : σ) :
      Reached services files ((window.after languages settings services limit event).run state).1

/-- At any time the records delivered so far are the first of those that come out in the end, and no more
files are in flight than there may be. -/
theorem Reached.delivered_prefix {files : List (Pending Source)} {window : Window Source}
    (reached : Reached languages settings limit services files window) :
    window.delivered.reverse <+: files.map (outcomes.record languages settings) ∧
      window.inFlight.length ≤ limit := by
  have keeps : window.expected outcomes languages settings =
      files.map (outcomes.record languages settings) ∧ window.inFlight.length ≤ limit := by
    induction reached with
    | start => exact ⟨by simp [expected], Nat.zero_le limit⟩
    | @after window _ event state ih =>
        have follows :=
          (after_happens languages settings services limit window state event).follows gives
        exact ⟨follows.expected_eq.trans ih.1, follows.keepsLimit ih.2⟩
  refine ⟨?_, keeps.2⟩
  rw [← keeps.1, expected, List.append_assoc]
  exact List.prefix_append _ _

/-- A window that has enough events left delivers all records, whatever is chosen, and is done. -/
theorem run_yields (choose : List Event → StateM σ Nat) (hasRoom : 0 < limit) (events : Nat)
    (window : Window Source) (isEnough : window.stagesLeft ≤ events) :
    Yields (run languages settings services choose limit events window)
      fun last => last.delivered.reverse = window.expected outcomes languages settings ∧
        last.IsDone := by
  intro state
  have isDone :=
    run_isDone languages settings services limit choose hasRoom events window isEnough state
  have expected_eq := run_holds languages settings services limit choose
    (fun _ last => last.expected outcomes languages settings =
      window.expected outcomes languages settings)
    (fun _ _ _ isHeld => isHeld)
    (fun happens isHeld => (happens.follows gives).expected_eq.trans isHeld) events window state rfl
  refine ⟨?_, isDone⟩
  rw [← expected_eq, expected, isDone.inFlight_eq, isDone.waiting_eq]
  simp

end Records

end Window

section Surveys

variable {services : Services (StateM σ) Source} {outcomes : Outcomes Source}

/-- A window in which all files wait delivers their records in the end, and is done. -/
theorem Window.run_waiting_yields (gives : services.Give outcomes) (languages : Languages)
    (settings : RecordSettings) (choose : List Window.Event → StateM σ Nat) (limit : Nat)
    (files : List (Pending Source)) :
    Yields (Window.run languages settings services choose (max limit 1)
        (eventsPerFile * files.length) { waiting := files })
      fun last => last.delivered.reverse = files.map (outcomes.record languages settings) ∧
        last.IsDone := by
  have isEnough := Nat.le_of_eq (Window.stagesLeft_waiting files)
  have hasRoom : 0 < max limit 1 := Nat.lt_of_lt_of_le Nat.one_pos (Nat.le_max_right limit 1)
  have expected_eq : Window.expected outcomes languages settings { waiting := files } =
      files.map (outcomes.record languages settings) := by
    simp [Window.expected]
  rw [← expected_eq]
  exact Window.run_yields gives languages settings (max limit 1) choose hasRoom _ _ isEnough

/-- The records of files that are recorded at the same time are those of the files recorded alone, in the
order of the list. -/
theorem recordFiles_yields (gives : services.Give outcomes) (languages : Languages)
    (settings : RecordSettings) (choose : List Window.Event → StateM σ Nat) (limit : Nat)
    (files : List (Pending Source)) :
    Yields (recordFiles languages settings services choose limit files)
      (· = files.map (outcomes.record languages settings)) :=
  (Window.run_waiting_yields gives languages settings choose limit files).bind
    fun _ outcome => .pure outcome.1

end Surveys

end RepoSurvey
