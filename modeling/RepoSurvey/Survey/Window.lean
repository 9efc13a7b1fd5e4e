import RepoSurvey.Survey.Progress

/-!
# Files in flight

Several files are recorded at the same time, up to a limit.  They are taken in the order of a list, each
comes along at its own pace, and the records are delivered in the order of the list.
-/

namespace RepoSurvey

/-- A file that waits to be recorded. `source` tells where its content comes from. -/
structure Pending (Source : Type) where
  path : String
  sizeHint : Nat
  source : Source

/-- A file on its way. -/
structure Flight (Source : Type) where
  source : Source
  progress : Progress

structure Window (Source : Type) where
  /-- The records delivered so far, the latest first. -/
  delivered : List FileRecord := []
  inFlight : List (Flight Source) := []
  waiting : List (Pending Source)

namespace Window

/-- What can happen to a window. -/
inductive Event
  /-- The next file is taken up. -/
  | takeUp
  /-- A file goes through its next stage. -/
  | advance (index : Nat)
  /-- The first record is delivered. -/
  | deliver
  deriving DecidableEq, Repr

variable {m : Type → Type} [Monad m] {Source : Type}

/-- Lets something happen; what cannot happen changes nothing. -/
def after (languages : Languages) (settings : RecordSettings) (services : Services m Source)
    (limit : Nat) (window : Window Source) : Event → m (Window Source)
  | .takeUp =>
      match window.waiting with
      | [] => return window
      | pending :: rest =>
          if window.inFlight.length < limit then
            let flight : Flight Source :=
              ⟨pending.source, .start pending.path pending.sizeHint⟩
            return { window with inFlight := window.inFlight ++ [flight], waiting := rest }
          else return window
  | .advance index =>
      match window.inFlight[index]? with
      | none => return window
      | some flight => do
          let progress ← flight.progress.next languages settings services flight.source
          return { window with inFlight := window.inFlight.set index { flight with progress } }
  | .deliver =>
      match window.inFlight with
      | ⟨_, .finished record⟩ :: rest =>
          return { window with delivered := record :: window.delivered, inFlight := rest }
      | _ => return window

/-- The events that can happen to a window, those first that keep it full and its files going in
order. -/
def possible (limit : Nat) (window : Window Source) : List Event :=
  let canDeliver := (window.inFlight.head?.map (·.progress.isFinished)).getD false
  let canTakeUp := window.inFlight.length < limit && !window.waiting.isEmpty
  let unfinished := (List.range window.inFlight.length).filter fun index =>
    !((window.inFlight[index]?.map (·.progress.isFinished)).getD true)
  (if canDeliver then [.deliver] else []) ++ (if canTakeUp then [.takeUp] else []) ++
    unfinished.map .advance

/-- Lets happen what is chosen among the possible events, at most `events` times. The choice is a place
in their list; a place beyond its end stands for the first event. -/
def run (languages : Languages) (settings : RecordSettings) (services : Services m Source)
    (choose : List Event → m Nat) (limit : Nat) : (events : Nat) → Window Source → m (Window Source)
  | 0, window => return window
  | events + 1, window =>
      match window.possible limit with
      | [] => return window
      | first :: others => do
          let choice ← choose (first :: others)
          let event := ((first :: others)[choice]?).getD first
          run languages settings services choose limit events
            (← window.after languages settings services limit event)

end Window

/-- What a survey depends on besides the files and the completion service: when each file comes along,
and whether the workers that parse stay alive. -/
structure Conditions (m : Type → Type) where
  /-- Which of several possible events happens next. -/
  choose : List Window.Event → m Nat
  /-- Waits for the worker that parses the file of a path, and tells why it was lost, if it was. -/
  awaitWorker : String → m (Option String)

/-- One file after the other comes along, and no worker is lost. -/
def Conditions.calm {m : Type → Type} [Monad m] : Conditions m where
  choose _ := return 0
  awaitWorker _ := return none

/-- A file is taken up, loaded, parsed, given its turn, summarized and delivered. -/
def eventsPerFile : Nat := 6

/-- Records files, at most `limit` of them at the same time. -/
def recordFiles {m : Type → Type} [Monad m] {Source : Type} (languages : Languages)
    (settings : RecordSettings) (services : Services m Source)
    (choose : List Window.Event → m Nat) (limit : Nat) (files : List (Pending Source)) :
    m (List FileRecord) := do
  let window ← Window.run languages settings services choose (max limit 1)
    (eventsPerFile * files.length) { waiting := files }
  return window.delivered.reverse

end RepoSurvey
