/-!
# Rate limits

Callers that share a service wait for their turns, and no two turns come closer together than an
interval.  Only one caller at a time has the lock: it looks at the clock, sleeps for the rest of the
interval and takes its turn.  Time may pass between any two of these.  Whoever leaves, in line or with
the lock, changes nothing for the others.
-/

namespace RepoSurvey

/-- How far a caller has come that has the lock. -/
inductive Stage
  /-- It has not looked at the clock. -/
  | entered
  /-- It has looked at the clock and will sleep for some time. -/
  | delayed (delay : Nat)
  | asleep (wakesAt : Nat)
  /-- It has nothing to wait for. -/
  | ready
  deriving DecidableEq, Repr

/-- The caller that has the lock. -/
structure Holder where
  caller : Nat
  stage : Stage
  deriving DecidableEq, Repr

/-- A turn that was granted. -/
structure Grant where
  caller : Nat
  time : Nat
  deriving DecidableEq, Repr

structure Limiter where
  /-- Two turns are at least this far apart. -/
  interval : Nat
  now : Nat := 0
  lastGrant : Option Nat := none
  /-- How many callers have asked. They are numbered in the order of asking. -/
  asked : Nat := 0
  /-- The callers that wait for the lock, in the order of asking. -/
  line : List Nat := []
  holder : Option Holder := none
  /-- The turns granted so far, the latest first. -/
  grants : List Grant := []
  deriving DecidableEq, Repr

namespace Limiter

/-- What can happen at a limiter. -/
inductive Event
  /-- A new caller gets in line. -/
  | ask
  /-- A caller in line gets the lock. -/
  | enter (caller : Nat)
  /-- The caller with the lock looks at the clock. -/
  | look
  /-- The caller with the lock goes to sleep. -/
  | sleep
  /-- The caller with the lock wakes up. -/
  | wake
  /-- The caller with the lock takes its turn and lets go of the lock. -/
  | take
  /-- A caller gives up. -/
  | leave (caller : Nat)
  /-- Time passes. -/
  | pass (time : Nat)
  deriving DecidableEq, Repr

/-- What a caller finds when it looks at the clock. -/
def found (limiter : Limiter) : Stage :=
  match limiter.lastGrant with
  | none => .ready
  | some last =>
      let elapsed := limiter.now - last
      if elapsed < limiter.interval then .delayed (limiter.interval - elapsed) else .ready

/-- How long the caller with the lock will sleep. -/
def rest (limiter : Limiter) : Nat :=
  match limiter.holder with
  | some ⟨_, .asleep wakesAt⟩ => wakesAt - limiter.now
  | _ => 0

/-- Grants a caller its turn. -/
def grant (limiter : Limiter) (caller : Nat) : Limiter :=
  { limiter with
    lastGrant := some limiter.now
    holder := none
    grants := ⟨caller, limiter.now⟩ :: limiter.grants }

/-- What comes of an event, if it can happen. -/
def after? (limiter : Limiter) : Event → Option Limiter
  | .ask => some { limiter with asked := limiter.asked + 1, line := limiter.line ++ [limiter.asked] }
  | .enter caller =>
      if limiter.holder = none ∧ caller ∈ limiter.line then
        some { limiter with line := limiter.line.erase caller, holder := some ⟨caller, .entered⟩ }
      else none
  | .look =>
      match limiter.holder with
      | some ⟨caller, .entered⟩ => some { limiter with holder := some ⟨caller, limiter.found⟩ }
      | _ => none
  | .sleep =>
      match limiter.holder with
      | some ⟨caller, .delayed delay⟩ =>
          some { limiter with holder := some ⟨caller, .asleep (limiter.now + delay)⟩ }
      | _ => none
  | .wake =>
      match limiter.holder with
      | some ⟨caller, .asleep wakesAt⟩ =>
          if wakesAt ≤ limiter.now then some { limiter with holder := some ⟨caller, .ready⟩ }
          else none
      | _ => none
  | .take =>
      match limiter.holder with
      | some ⟨caller, .ready⟩ => some (limiter.grant caller)
      | _ => none
  | .leave caller =>
      if limiter.holder.map (·.caller) = some caller then some { limiter with holder := none }
      else if caller ∈ limiter.line then some { limiter with line := limiter.line.erase caller }
      else none
  | .pass time => some { limiter with now := limiter.now + time }

/-- Lets something happen; what cannot happen changes nothing. -/
def after (limiter : Limiter) (event : Event) : Limiter := (limiter.after? event).getD limiter

/-- Lets the caller with the lock have its turn as early as possible. -/
def finish (limiter : Limiter) : Limiter :=
  let resting := (limiter.after .look).after .sleep
  ((resting.after (.pass resting.rest)).after .wake).after .take

/-- Lets the caller with the lock have its turn, or else the first in line. -/
def serve (limiter : Limiter) : Limiter :=
  match limiter.line with
  | [] => limiter.finish
  | first :: _ => (limiter.after (.enter first)).finish

/-- Gets a turn for one caller, when nobody else waits. -/
def acquire (limiter : Limiter) : Limiter := (limiter.after .ask).serve

/-- Gets turns for several callers that ask at the same time. -/
def acquireTogether (limiter : Limiter) (callers : Nat) : Limiter :=
  callers.repeat serve (callers.repeat (·.after .ask) limiter)

/-- Gets a turn for one caller that gives up after some time, when nobody else waits. -/
def acquireWithin (limiter : Limiter) (patience : Nat) : Limiter :=
  let entered := (limiter.after .ask).after (.enter limiter.asked)
  let resting := (entered.after .look).after .sleep
  if resting.rest ≤ patience then resting.finish
  else (resting.after (.pass patience)).after (.leave limiter.asked)

end Limiter

end RepoSurvey
