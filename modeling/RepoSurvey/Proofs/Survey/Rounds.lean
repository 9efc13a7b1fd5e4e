import Mathlib.Data.List.Range
import Mathlib.Logic.Relation
import Mathlib.Order.Bounds.Basic
import RepoSurvey.Proofs.Survey.Turns

/-!
# Rounds of callers

Some callers ask a limiter at the same time, and its clock is paused.  It goes on only when nobody has
anything to do, and then to the time at which the caller with the lock wakes up or gives up.

What comes of a round can be told at any point of it (`Round.foretold`).  No step of the round changes
what is foretold, and when the round is over it has come true (`Round.settles`).  So it does not matter
whether callers ask before or after others have the lock, and what a limiter computes for a round is one
of its runs.
-/

namespace RepoSurvey.Limiter

open Relation

theorem free_of_nobody {limiter : Limiter} (nobody : limiter.pending = []) :
    limiter.holder = none ∧ limiter.line = [] := by
  obtain ⟨isFree, line_eq⟩ := List.append_eq_nil_iff.mp nobody
  exact ⟨by simpa using isFree, line_eq⟩

/-! ## The next turn -/

/-- The earliest time for the next turn. -/
def due (limiter : Limiter) : Nat :=
  match limiter.lastGrant with
  | none => limiter.now
  | some last => max limiter.now (last + limiter.interval)

/-- No time that has not passed and that is far enough from the last turn comes before. -/
theorem due_isLeast (limiter : Limiter) :
    IsLeast {time | limiter.now ≤ time ∧ limiter.Allows time} limiter.due := by
  unfold due
  split
  · rename_i noGrant
    refine ⟨⟨Nat.le_refl _, ?_⟩, fun time isLater => isLater.1⟩
    intro last isLast
    rw [noGrant] at isLast
    cases isLast
  · rename_i last isLast
    constructor
    · refine ⟨Nat.le_max_left _ _, ?_⟩
      intro other isOther
      rw [isLast] at isOther
      cases isOther
      exact Nat.le_max_right _ _
    · intro time isLater
      exact Nat.max_le.mpr ⟨isLater.1, isLater.2 last isLast⟩

/-- When the next turn is taken if nobody leaves. -/
def nextTurn (limiter : Limiter) : Nat :=
  match limiter.holder with
  | none | some ⟨_, .entered⟩ => limiter.due
  | some ⟨_, .delayed delay⟩ => limiter.now + delay
  | some ⟨_, .asleep wakesAt⟩ => max limiter.now wakesAt
  | some ⟨_, .ready⟩ => limiter.now

theorem nextTurn_found {limiter : Limiter}
    (isPast : ∀ last, limiter.lastGrant = some last → last ≤ limiter.now) (caller : Nat) :
    nextTurn { limiter with holder := some ⟨caller, limiter.found⟩ } = limiter.due := by
  unfold found due
  cases isLast : limiter.lastGrant with
  | none => rfl
  | some last =>
      have notAhead := isPast last isLast
      dsimp only
      by_cases isEarly : limiter.now - last < limiter.interval
      · rw [if_pos isEarly]
        dsimp only [nextTurn]
        omega
      · rw [if_neg isEarly]
        dsimp only [nextTurn]
        omega

/-! ## A caller at the clock -/

theorem asleep_of_rest {limiter : Limiter} (hasRest : limiter.rest ≠ 0) :
    ∃ caller wakesAt, limiter.holder = some ⟨caller, .asleep wakesAt⟩ ∧
      limiter.rest = wakesAt - limiter.now := by
  rw [rest] at hasRest ⊢
  split at hasRest
  · rename_i caller wakesAt isAsleep
    exact ⟨caller, wakesAt, isAsleep, rfl⟩
  · exact absurd rfl hasRest

/-- The caller with the lock has looked at the clock and sleeps if it has to. -/
def atRest (limiter : Limiter) : Limiter := (limiter.after .look).after .sleep

/-- A caller looks at the clock, and then its turn comes when it has slept enough. -/
theorem atRest_entered {limiter : Limiter} {caller : Nat}
    (holds : limiter.holder = some ⟨caller, .entered⟩)
    (isPast : ∀ last, limiter.lastGrant = some last → last ≤ limiter.now) :
    ∃ stage, limiter.atRest = { limiter with holder := some ⟨caller, stage⟩ } ∧
      limiter.due = limiter.now + limiter.atRest.rest := by
  have look_eq : limiter.after .look = { limiter with holder := some ⟨caller, limiter.found⟩ } := by
    refine after_of_after? ?_
    rw [after?, holds]
  have turn_eq := nextTurn_found isPast caller
  rw [atRest, look_eq]
  rw [nextTurn] at turn_eq
  dsimp only at turn_eq
  have found_cases : limiter.found = .ready ∨ ∃ delay, limiter.found = .delayed delay := by
    unfold found
    split
    · exact .inl rfl
    · dsimp only
      split
      · exact .inr ⟨_, rfl⟩
      · exact .inl rfl
  rcases found_cases with found_eq | ⟨delay, found_eq⟩
  · rw [found_eq] at turn_eq ⊢
    exact ⟨.ready, rfl, turn_eq.symm⟩
  · rw [found_eq] at turn_eq ⊢
    refine ⟨.asleep (limiter.now + delay), rfl, ?_⟩
    change limiter.due = limiter.now + (limiter.now + delay - limiter.now)
    rw [← turn_eq]
    dsimp only
    omega

/-! ## Turns in a row -/

/-- Callers take their turns one after the other, the first one at some time. -/
def giveTurns (limiter : Limiter) (time : Nat) : List Nat → Limiter
  | [] => limiter
  | caller :: others =>
      ({ limiter with now := time }.grant caller).giveTurns (time + limiter.interval) others

/-- Callers take their turns, the first one at some time, unless they give up before that. -/
def settled (limiter : Limiter) (time : Nat) : Option Nat → List Nat → Limiter
  | _, [] => limiter
  | none, caller :: others => limiter.giveTurns time (caller :: others)
  | some deadline, caller :: others =>
      if time ≤ deadline then limiter.giveTurns time (caller :: others)
      else { limiter with now := deadline }

/-! ## Rounds -/

/-- What happens to the caller with the lock through itself. -/
def Event.isOwn : Event → Bool
  | .look | .sleep | .wake | .take => true
  | _ => false

/-- Callers that ask at the same time. -/
structure Round where
  limiter : Limiter
  /-- How many of them have not asked yet. -/
  absent : Nat
  /-- When they give up. -/
  deadline : Option Nat

namespace Round

/-- What can happen in a round.  Callers get the lock in the order of asking.  Time passes and callers
give up only when everyone has asked and the one with the lock sleeps. -/
inductive Next : Round → Round → Prop
  | ask (limiter : Limiter) (absent : Nat) (deadline : Option Nat) :
      Next ⟨limiter, absent + 1, deadline⟩ ⟨limiter.after .ask, absent, deadline⟩
  | enter {limiter later : Limiter} {caller : Nat} {others : List Nat}
      (isFirst : limiter.line = caller :: others) (happens : Step limiter (.enter caller) later)
      (absent : Nat) (deadline : Option Nat) :
      Next ⟨limiter, absent, deadline⟩ ⟨later, absent, deadline⟩
  | act {limiter later : Limiter} {event : Event} (isOwn : event.isOwn)
      (happens : Step limiter event later) (absent : Nat) (deadline : Option Nat) :
      Next ⟨limiter, absent, deadline⟩ ⟨later, absent, deadline⟩
  | pass {limiter : Limiter} {caller wakesAt time : Nat} {deadline : Option Nat}
      (isAsleep : limiter.holder = some ⟨caller, .asleep wakesAt⟩)
      (reaches : limiter.now + time = max limiter.now (min wakesAt (deadline.getD wakesAt))) :
      Next ⟨limiter, 0, deadline⟩ ⟨limiter.after (.pass time), 0, deadline⟩
  | leave {limiter : Limiter} {caller wakesAt : Nat}
      (isAsleep : limiter.holder = some ⟨caller, .asleep wakesAt⟩)
      (isEarly : limiter.now < wakesAt) :
      Next ⟨limiter, 0, some limiter.now⟩ ⟨limiter.after (.leave caller), 0, some limiter.now⟩

/-- Everyone who has not got a turn, in the order of turns. -/
def callers (round : Round) : List Nat :=
  round.limiter.pending ++ List.range' round.limiter.asked round.absent

/-- The limiter when everyone has asked and is gone. -/
def vacated (round : Round) : Limiter :=
  { round.limiter with asked := round.limiter.asked + round.absent, line := [], holder := none }

/-- What will have come of the round in the end. -/
def foretold (round : Round) : Limiter :=
  round.vacated.settled round.limiter.nextTurn round.deadline round.callers

structure Sound (round : Round) : Prop where
  isPast : ∀ last, round.limiter.lastGrant = some last → last ≤ round.limiter.now
  /-- Nobody is late, and only one caller may give up. -/
  inTime : ∀ deadline, round.deadline = some deadline →
    round.limiter.now ≤ deadline ∧ round.callers.length ≤ 1

/-! ## Steps of a round -/

/-- A step of a round that makes no difference to anyone's turn. -/
structure Alike (first second : Round) : Prop where
  callers_eq : second.callers = first.callers
  vacated_eq : second.vacated = first.vacated
  nextTurn_eq : second.limiter.nextTurn = first.limiter.nextTurn
  deadline_eq : second.deadline = first.deadline

/-- What is foretold stays true. -/
structure Keeps (first second : Round) : Prop where
  sound : second.Sound
  foretold_eq : second.foretold = first.foretold

theorem Alike.keeps {first second : Round} (alike : Alike first second) (sound : first.Sound) :
    Keeps first second := by
  have last_eq : second.limiter.lastGrant = first.limiter.lastGrant :=
    congrArg (·.lastGrant) alike.vacated_eq
  have now_eq : second.limiter.now = first.limiter.now := congrArg (·.now) alike.vacated_eq
  constructor
  · constructor
    · rw [last_eq, now_eq]
      exact sound.isPast
    · rw [alike.deadline_eq, alike.callers_eq, now_eq]
      exact sound.inTime
  · rw [foretold, foretold, alike.callers_eq, alike.vacated_eq, alike.nextTurn_eq,
      alike.deadline_eq]

theorem alike_ask (limiter : Limiter) (absent : Nat) (deadline : Option Nat) :
    Alike ⟨limiter, absent + 1, deadline⟩ ⟨limiter.after .ask, absent, deadline⟩ where
  callers_eq := by
    have pending_eq : (limiter.after .ask).pending = limiter.pending ++ [limiter.asked] :=
      (List.append_assoc _ _ _).symm
    change (limiter.after .ask).pending ++ List.range' (limiter.asked + 1) absent = _
    rw [pending_eq, callers, List.range'_succ, List.append_assoc, List.singleton_append]
  vacated_eq := by
    have asked_eq : limiter.asked + 1 + absent = limiter.asked + (absent + 1) := by omega
    change { limiter with asked := limiter.asked + 1 + absent, line := [], holder := none } = _
    rw [asked_eq]
    rfl
  nextTurn_eq := rfl
  deadline_eq := rfl

theorem alike_enter {limiter later : Limiter} {caller : Nat} {others : List Nat}
    (isFirst : limiter.line = caller :: others) (happens : Step limiter (.enter caller) later)
    (absent : Nat) (deadline : Option Nat) :
    Alike ⟨limiter, absent, deadline⟩ ⟨later, absent, deadline⟩ := by
  cases happens with
  | enter isFree waits =>
      refine ⟨?_, rfl, ?_, rfl⟩
      · rw [callers, callers, pending_of_free isFree, pending_of_holder rfl, isFirst,
          List.erase_cons_head]
      · rw [nextTurn, nextTurn, isFree]
        rfl

/-- Looking, sleeping and waking do not change when the turn is taken. -/
theorem alike_act {limiter later : Limiter} {event : Event} (isOwn : event.isOwn)
    (notTaken : event ≠ .take) (happens : Step limiter event later)
    (isPast : ∀ last, limiter.lastGrant = some last → last ≤ limiter.now) (absent : Nat)
    (deadline : Option Nat) : Alike ⟨limiter, absent, deadline⟩ ⟨later, absent, deadline⟩ := by
  cases happens with
  | look holds =>
      refine ⟨?_, rfl, ?_, rfl⟩
      · rw [callers, callers, pending_of_holder holds, pending_of_holder rfl]
      · dsimp only
        rw [nextTurn_found isPast, nextTurn, holds]
  | sleep holds =>
      refine ⟨?_, rfl, ?_, rfl⟩
      · rw [callers, callers, pending_of_holder holds, pending_of_holder rfl]
      · dsimp only
        rw [nextTurn, nextTurn, holds]
        dsimp only
        omega
  | wake holds isDue =>
      refine ⟨?_, rfl, ?_, rfl⟩
      · rw [callers, callers, pending_of_holder holds, pending_of_holder rfl]
      · dsimp only
        rw [nextTurn, nextTurn, holds]
        dsimp only
        omega
  | take => exact absurd rfl notTaken
  | ask | enter | giveUp | leave | pass => cases isOwn

/-- Who takes its turn takes it at the time that was foretold. -/
theorem keeps_take {limiter : Limiter} {caller absent : Nat} {deadline : Option Nat}
    (holds : limiter.holder = some ⟨caller, .ready⟩) (sound : Sound ⟨limiter, absent, deadline⟩) :
    Keeps ⟨limiter, absent, deadline⟩ ⟨limiter.grant caller, absent, deadline⟩ := by
  have callers_eq : callers ⟨limiter, absent, deadline⟩ =
      caller :: callers ⟨limiter.grant caller, absent, deadline⟩ := by
    rw [callers, callers, pending_of_holder holds, pending_of_free rfl]
    rfl
  have turn_eq : limiter.nextTurn = limiter.now := by
    rw [nextTurn, holds]
  have next_eq : (limiter.grant caller).nextTurn = limiter.now + limiter.interval := by
    change max limiter.now (limiter.now + limiter.interval) = _
    omega
  constructor
  · constructor
    · rintro _ ⟨⟩
      exact Nat.le_refl _
    · intro time isDeadline
      obtain ⟨notLate, few⟩ := sound.inTime time isDeadline
      rw [callers_eq, List.length_cons] at few
      exact ⟨notLate, by omega⟩
  · rw [foretold, foretold, callers_eq]
    dsimp only
    rw [turn_eq, next_eq]
    cases deadline with
    | none =>
        cases callers ⟨limiter.grant caller, absent, none⟩ with
        | nil => rfl
        | cons => rfl
    | some time =>
        obtain ⟨notLate, few⟩ := sound.inTime time rfl
        rw [callers_eq, List.length_cons] at few
        have nobody : callers ⟨limiter.grant caller, absent, some time⟩ = [] :=
          List.eq_nil_of_length_eq_zero (by omega)
        rw [nobody, settled, settled, if_pos notLate]
        rfl

/-- The clock goes on, but not past the next turn and not past the deadline. -/
theorem keeps_pass {limiter : Limiter} {caller wakesAt time : Nat} {deadline : Option Nat}
    (isAsleep : limiter.holder = some ⟨caller, .asleep wakesAt⟩)
    (reaches : limiter.now + time = max limiter.now (min wakesAt (deadline.getD wakesAt)))
    (sound : Sound ⟨limiter, 0, deadline⟩) :
    Keeps ⟨limiter, 0, deadline⟩ ⟨limiter.after (.pass time), 0, deadline⟩ := by
  have callers_eq : callers ⟨limiter.after (.pass time), 0, deadline⟩ =
      callers ⟨limiter, 0, deadline⟩ := rfl
  have turn_eq : (limiter.after (.pass time)).nextTurn = limiter.nextTurn := by
    change nextTurn { limiter with now := limiter.now + time } = _
    rw [nextTurn, nextTurn, isAsleep]
    dsimp only
    omega
  constructor
  · constructor
    · intro last isLast
      exact Nat.le_trans (sound.isPast last isLast) (Nat.le_add_right _ _)
    · intro latest isDeadline
      obtain ⟨notLate, few⟩ := sound.inTime latest isDeadline
      refine ⟨?_, few⟩
      change deadline = some latest at isDeadline
      change limiter.now ≤ latest at notLate
      change limiter.now + time ≤ latest
      rw [reaches, isDeadline, Option.getD_some]
      omega
  · rw [foretold, foretold, callers_eq]
    dsimp only
    rw [turn_eq, callers, pending_of_holder isAsleep, List.cons_append]
    -- The time at which the limiter stands does not matter as long as somebody waits.
    cases deadline with
    | none => rfl
    | some latest => rfl

/-- Who gives up was told so, and changes nothing. -/
theorem keeps_leave {limiter : Limiter} {caller wakesAt : Nat}
    (isAsleep : limiter.holder = some ⟨caller, .asleep wakesAt⟩)
    (isEarly : limiter.now < wakesAt) (sound : Sound ⟨limiter, 0, some limiter.now⟩) :
    Keeps ⟨limiter, 0, some limiter.now⟩
      ⟨limiter.after (.leave caller), 0, some limiter.now⟩ := by
  have after_eq : limiter.after (.leave caller) = { limiter with holder := none } := by
    refine after_of_after? ?_
    rw [after?, if_pos (by rw [isAsleep]; rfl)]
  have few := (sound.inTime _ rfl).2
  rw [callers, pending_of_holder isAsleep, List.length_append, List.length_cons] at few
  have line_eq : limiter.line = [] := List.eq_nil_of_length_eq_zero (by omega)
  have nobody : callers ⟨limiter.after (.leave caller), 0, some limiter.now⟩ = [] := by
    rw [after_eq, callers, pending_of_free rfl]
    exact congrArg (· ++ []) line_eq
  constructor
  · constructor
    · rw [after_eq]
      exact sound.isPast
    · rintro _ ⟨⟩
      rw [nobody, after_eq]
      exact ⟨Nat.le_refl _, Nat.zero_le _⟩
  · have turnLate : ¬limiter.nextTurn ≤ limiter.now := by
      rw [nextTurn, isAsleep]
      dsimp only
      omega
    rw [foretold, foretold, nobody, callers, pending_of_holder isAsleep, List.cons_append, settled,
      settled, if_neg turnLate, after_eq]
    rfl

theorem Next.keeps {first second : Round} (next : Next first second) (sound : first.Sound) :
    Keeps first second := by
  cases next with
  | ask limiter absent deadline => exact (alike_ask limiter absent deadline).keeps sound
  | enter isFirst happens absent deadline =>
      exact (alike_enter isFirst happens absent deadline).keeps sound
  | @act limiter later event isOwn happens absent deadline =>
      by_cases isTaken : event = .take
      · subst isTaken
        cases happens with
        | take holds => exact keeps_take holds sound
      · exact (alike_act isOwn isTaken happens sound.isPast absent deadline).keeps sound
  | pass isAsleep reaches => exact keeps_pass isAsleep reaches sound
  | leave isAsleep isEarly => exact keeps_leave isAsleep isEarly sound

/-- What is foretold stays true for as long as a round goes on. -/
theorem keeps_of_run {first last : Round} (run : ReflTransGen Next first last)
    (sound : first.Sound) : Keeps first last := by
  induction run with
  | refl => exact ⟨sound, rfl⟩
  | tail _ next ih =>
      have kept := next.keeps ih.sound
      exact ⟨kept.sound, kept.foretold_eq.trans ih.foretold_eq⟩

/-- When a round is over, what was foretold has come true. -/
theorem settles {first last : Round} (run : ReflTransGen Next first last) (sound : first.Sound)
    (isOver : last.callers = []) : last.limiter = first.foretold := by
  rw [← (keeps_of_run run sound).foretold_eq, foretold, isOver]
  obtain ⟨limiter, absent, deadline⟩ := last
  obtain ⟨nobodyWaits, nobodyComes⟩ := List.append_eq_nil_iff.mp isOver
  obtain ⟨holder_eq, line_eq⟩ := free_of_nobody nobodyWaits
  have absent_eq : absent = 0 := List.range'_eq_nil_iff.mp nobodyComes
  change limiter = { limiter with asked := limiter.asked + absent, line := [], holder := none }
  rw [absent_eq, ← line_eq, ← holder_eq]
  rfl

/-! ## What a limiter computes is a run -/

/-- What callers do by themselves is part of a round, or changes nothing. -/
theorem runs_after {event : Event} (isOwn : event.isOwn) (limiter : Limiter) (absent : Nat)
    (deadline : Option Nat) :
    ReflTransGen Next ⟨limiter, absent, deadline⟩ ⟨limiter.after event, absent, deadline⟩ := by
  rcases limiter.step_after event with happens | ⟨_, same⟩
  · exact .single (.act isOwn happens absent deadline)
  · rw [same]

/-- The clock goes on until the caller with the lock wakes up. -/
theorem runs_rest {limiter : Limiter} {deadline : Option Nat}
    (inTime : ∀ latest, deadline = some latest → limiter.nextTurn ≤ latest) :
    ReflTransGen Next ⟨limiter, 0, deadline⟩ ⟨limiter.after (.pass limiter.rest), 0, deadline⟩ := by
  by_cases noRest : limiter.rest = 0
  · rw [noRest]
    exact .refl
  · obtain ⟨caller, wakesAt, isAsleep, rest_eq⟩ := asleep_of_rest noRest
    refine .single (.pass isAsleep ?_)
    have turn_eq : limiter.nextTurn = max limiter.now wakesAt := by
      rw [nextTurn, isAsleep]
    rw [turn_eq] at inTime
    cases deadline with
    | none =>
        rw [rest_eq, Option.getD_none]
        omega
    | some latest =>
        have isSoon := inTime latest rfl
        rw [rest_eq, Option.getD_some]
        omega

theorem nextTurn_after {event : Event} (isOwn : event.isOwn) (notTaken : event ≠ .take)
    {limiter : Limiter} (isPast : ∀ last, limiter.lastGrant = some last → last ≤ limiter.now) :
    (limiter.after event).nextTurn = limiter.nextTurn := by
  rcases limiter.step_after event with happens | ⟨_, same⟩
  · exact (alike_act isOwn notTaken happens isPast 0 none).nextTurn_eq
  · rw [same]

theorem runs_atRest (limiter : Limiter) (deadline : Option Nat) :
    ReflTransGen Next ⟨limiter, 0, deadline⟩ ⟨limiter.atRest, 0, deadline⟩ :=
  (runs_after rfl limiter 0 deadline).trans (runs_after rfl _ 0 deadline)

theorem nextTurn_atRest {limiter : Limiter} {deadline : Option Nat}
    (sound : Sound ⟨limiter, 0, deadline⟩) : limiter.atRest.nextTurn = limiter.nextTurn := by
  have looks : ReflTransGen Next ⟨limiter, 0, deadline⟩ ⟨limiter.after .look, 0, deadline⟩ :=
    runs_after rfl limiter 0 deadline
  have looked := (keeps_of_run looks sound).sound
  rw [atRest, nextTurn_after rfl (by decide) looked.isPast,
    nextTurn_after rfl (by decide) sound.isPast]

/-- The caller with the lock gets its turn if that is not later than the deadline. -/
theorem runs_finish {limiter : Limiter} {deadline : Option Nat}
    (sound : Sound ⟨limiter, 0, deadline⟩)
    (inTime : ∀ latest, deadline = some latest → limiter.nextTurn ≤ latest) :
    ReflTransGen Next ⟨limiter, 0, deadline⟩ ⟨limiter.finish, 0, deadline⟩ := by
  rw [← nextTurn_atRest sound] at inTime
  have rests := (runs_atRest limiter deadline).trans (runs_rest inTime)
  exact (rests.trans (runs_after rfl _ 0 deadline)).trans (runs_after rfl _ 0 deadline)

/-- Somebody who waits gets a turn. -/
theorem runs_serve {limiter : Limiter} (sound : Sound ⟨limiter, 0, none⟩) :
    ReflTransGen Next ⟨limiter, 0, none⟩ ⟨limiter.serve, 0, none⟩ := by
  rw [serve]
  split
  · exact runs_finish sound (by simp)
  · rename_i first others line_eq
    have enters : ReflTransGen Next ⟨limiter, 0, none⟩ ⟨limiter.after (.enter first), 0, none⟩ := by
      rcases limiter.step_after (.enter first) with happens | ⟨_, same⟩
      · exact .single (.enter line_eq happens 0 none)
      · rw [same]
    exact enters.trans (runs_finish (keeps_of_run enters sound).sound (by simp))

theorem runs_serveAll {limiter : Limiter} (sound : Sound ⟨limiter, 0, none⟩) (turns : Nat) :
    ReflTransGen Next ⟨limiter, 0, none⟩ ⟨serve^[turns] limiter, 0, none⟩ := by
  induction turns generalizing limiter with
  | zero => exact .refl
  | succ turns ih =>
      have serves := runs_serve sound
      exact serves.trans (ih (keeps_of_run serves sound).sound)

/-- Everyone asks, and nobody is forgotten. -/
theorem runs_asks (limiter : Limiter) (absent : Nat) (deadline : Option Nat) :
    ReflTransGen Next ⟨limiter, absent, deadline⟩ ⟨(·.after .ask)^[absent] limiter, 0, deadline⟩ ∧
      callers ⟨(·.after .ask)^[absent] limiter, 0, deadline⟩ =
        callers ⟨limiter, absent, deadline⟩ := by
  induction absent generalizing limiter with
  | zero => exact ⟨.refl, rfl⟩
  | succ absent ih =>
      obtain ⟨asks, callers_eq⟩ := ih (limiter.after .ask)
      refine ⟨.head (.ask limiter absent deadline) asks, ?_⟩
      rw [← (alike_ask limiter absent deadline).callers_eq]
      exact callers_eq

/-- A round is over and has come to this. -/
def Ends (first : Round) (later : Limiter) : Prop :=
  ∃ last, ReflTransGen Next first last ∧ last.callers = [] ∧ last.limiter = later

theorem Ends.of_run {first middle : Round} {later : Limiter} (run : ReflTransGen Next first middle)
    (ends : middle.Ends later) : first.Ends later := by
  obtain ⟨last, further, isOver, same⟩ := ends
  exact ⟨last, run.trans further, isOver, same⟩

/-- There is only one end of a round. -/
theorem Ends.eq_foretold {first : Round} {later : Limiter} (ends : first.Ends later)
    (sound : first.Sound) : later = first.foretold := by
  obtain ⟨last, run, isOver, rfl⟩ := ends
  exact settles run sound isOver

/-- The only caller gets its turn before the deadline. -/
theorem ends_finish {limiter : Limiter} {deadline : Option Nat} {holder : Holder}
    (holds : limiter.holder = some holder) (isAlone : limiter.line = [])
    (sound : Sound ⟨limiter, 0, deadline⟩)
    (inTime : ∀ latest, deadline = some latest → limiter.nextTurn ≤ latest) :
    Ends ⟨limiter, 0, deadline⟩ limiter.finish := by
  refine ⟨_, runs_finish sound inTime, ?_, rfl⟩
  rw [callers, (finish_held holds).1, isAlone]
  rfl

/-- The only caller sleeps longer than it has patience. -/
theorem ends_leave {limiter : Limiter} {caller patience : Nat} {stage : Stage}
    (holds : limiter.holder = some ⟨caller, stage⟩) (isAlone : limiter.line = [])
    (isLate : patience < limiter.rest) :
    Ends ⟨limiter, 0, some (limiter.now + patience)⟩
      ((limiter.after (.pass patience)).after (.leave caller)) := by
  have hasRest : limiter.rest ≠ 0 := Nat.ne_zero_of_lt isLate
  obtain ⟨other, wakesAt, isAsleep, rest_eq⟩ := asleep_of_rest hasRest
  rw [holds] at isAsleep
  cases isAsleep
  have reaches : limiter.now + patience =
      max limiter.now (min wakesAt ((some (limiter.now + patience)).getD wakesAt)) := by
    rw [Option.getD_some]
    omega
  have passes := Next.pass holds reaches
  have heldLater : (limiter.after (.pass patience)).holder =
      some ⟨caller, .asleep wakesAt⟩ := holds
  have isEarly : (limiter.after (.pass patience)).now < wakesAt := by
    change limiter.now + patience < wakesAt
    omega
  refine ⟨_, (ReflTransGen.single passes).tail (.leave heldLater isEarly), ?_, rfl⟩
  have isPending : caller ∈ (limiter.after (.pass patience)).pending := by
    rw [pending_of_holder heldLater]
    exact List.mem_cons_self
  rw [callers, (after_leave isPending).1, pending_of_holder heldLater, List.erase_cons_head]
  exact congrArg (· ++ []) isAlone

end Round

/-! ## When nobody waits -/

/-- Nobody waits at a limiter, and what it remembers has happened. -/
structure Quiet (limiter : Limiter) : Prop where
  nobody : limiter.pending = []
  isPast : ∀ last, limiter.lastGrant = some last → last ≤ limiter.now
  known : ∀ grant ∈ limiter.grants, grant.caller < limiter.asked

theorem quiet_idle (interval now : Nat) : Quiet (idle interval now) where
  nobody := rfl
  isPast := by simp [idle]
  known := by simp [idle]

theorem repeat_eq_iterate {α : Type} (f : α → α) (times : Nat) (start : α) :
    times.repeat f start = f^[times] start := by
  induction times with
  | zero => rfl
  | succ times ih => rw [Nat.repeat, ih, Function.iterate_succ_apply']

/-- The only caller gets the lock. -/
def entered (limiter : Limiter) : Limiter :=
  { limiter with asked := limiter.asked + 1, line := [], holder := some ⟨limiter.asked, .entered⟩ }

namespace Quiet

variable {limiter : Limiter}

theorem callers_eq (quiet : limiter.Quiet) (absent : Nat) (deadline : Option Nat) :
    Round.callers ⟨limiter, absent, deadline⟩ = List.range' limiter.asked absent := by
  rw [Round.callers, quiet.nobody, List.nil_append]

theorem sound_all (quiet : limiter.Quiet) (absent : Nat) : Round.Sound ⟨limiter, absent, none⟩ where
  isPast := quiet.isPast
  inTime := by simp

theorem sound_within (quiet : limiter.Quiet) (patience : Nat) :
    Round.Sound ⟨limiter, 1, some (limiter.now + patience)⟩ where
  isPast := quiet.isPast
  inTime := by
    rintro _ ⟨⟩
    rw [quiet.callers_eq, List.length_range']
    exact ⟨Nat.le_add_right _ _, Nat.le_refl _⟩

/-- Getting turns for several callers is a round without a deadline. -/
theorem ends_together (quiet : limiter.Quiet) (callers : Nat) :
    Round.Ends ⟨limiter, callers, none⟩ (limiter.acquireTogether callers) := by
  obtain ⟨asks, callers_eq⟩ := Round.runs_asks limiter callers none
  have sound := (Round.keeps_of_run asks (quiet.sound_all callers)).sound
  have pending_eq : ((·.after .ask)^[callers] limiter).pending = List.range' limiter.asked callers := by
    rw [quiet.callers_eq] at callers_eq
    rw [← callers_eq]
    exact (List.append_nil _).symm
  have served := serve_all ((·.after .ask)^[callers] limiter)
  rw [pending_eq, List.length_range'] at served
  refine ⟨_, asks.trans (Round.runs_serveAll sound callers), ?_, ?_⟩
  · rw [Round.callers, served.1]
    rfl
  · rw [acquireTogether, repeat_eq_iterate, repeat_eq_iterate]

theorem enters (quiet : limiter.Quiet) :
    (limiter.after .ask).line = [limiter.asked] ∧
      (limiter.after .ask).after? (.enter limiter.asked) = some limiter.entered := by
  obtain ⟨isFree, line_eq⟩ := free_of_nobody quiet.nobody
  have holder_eq : (limiter.after .ask).holder = none := isFree
  have asked_eq : (limiter.after .ask).line = [limiter.asked] := by
    change limiter.line ++ [limiter.asked] = _
    rw [line_eq, List.nil_append]
  refine ⟨asked_eq, ?_⟩
  rw [after?, if_pos ⟨holder_eq, by rw [asked_eq]; exact List.mem_singleton_self _⟩, asked_eq,
    List.erase_cons_head]
  rfl

theorem acquireWithin_eq (quiet : limiter.Quiet) (patience : Nat) :
    limiter.acquireWithin patience =
      if limiter.entered.atRest.rest ≤ patience then
        limiter.entered.atRest.finish
      else (limiter.entered.atRest.after (.pass patience)).after
        (.leave limiter.asked) := by
  rw [acquireWithin, after_of_after? quiet.enters.2]
  rfl

/-- Waiting for a turn for some time is a round with a deadline. -/
theorem ends_within (quiet : limiter.Quiet) (patience : Nat) :
    Round.Ends ⟨limiter, 1, some (limiter.now + patience)⟩ (limiter.acquireWithin patience) := by
  obtain ⟨isFirst, enters⟩ := quiet.enters
  have asks : ReflTransGen Round.Next ⟨limiter, 1, some (limiter.now + patience)⟩
      ⟨limiter.entered, 0, some (limiter.now + patience)⟩ :=
    .head (.ask limiter 0 _) (.single (.enter isFirst (.of_after? enters) 0 _))
  have rests := asks.trans (Round.runs_atRest limiter.entered (some (limiter.now + patience)))
  have askedSound := (Round.keeps_of_run asks (quiet.sound_within patience)).sound
  have sound := (Round.keeps_of_run rests (quiet.sound_within patience)).sound
  have turn_eq : limiter.entered.atRest.nextTurn = limiter.entered.due :=
    Round.nextTurn_atRest askedSound
  have holds : limiter.entered.holder = some ⟨limiter.asked, .entered⟩ := rfl
  obtain ⟨stage, resting_eq, due_eq⟩ := atRest_entered holds quiet.isPast
  rw [quiet.acquireWithin_eq]
  generalize limiter.entered.atRest = resting at *
  have heldBy : resting.holder = some ⟨limiter.asked, stage⟩ := by
    rw [resting_eq]
  have isAlone : resting.line = [] := by
    rw [resting_eq]
    rfl
  have now_eq : resting.now = limiter.now := by
    rw [resting_eq]
    rfl
  refine .of_run rests ?_
  split
  · rename_i isSoon
    refine Round.ends_finish heldBy isAlone sound ?_
    rintro _ ⟨⟩
    rw [turn_eq, due_eq]
    exact Nat.add_le_add_left isSoon _
  · rename_i isLate
    rw [← now_eq]
    exact Round.ends_leave heldBy isAlone (Nat.not_le.mp isLate)

end Quiet

end RepoSurvey.Limiter
