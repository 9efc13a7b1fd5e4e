import Mathlib.Data.List.Chain
import Mathlib.Data.List.Nodup
import Mathlib.Data.List.Perm.Basic
import Mathlib.Logic.Function.Iterate
import RepoSurvey.Survey.Limiter

/-!
# Turns stay apart

Whatever happens at a limiter, and in whatever order: two turns are never closer together than the
interval, and every caller that has asked either waits, or has got exactly one turn, or has left
without one.

What the caller with the lock knows about the clock was true when it looked, and it stays true as time
passes, because nobody else can be granted a turn in the meantime.  That is the invariant behind the
distance between turns.
-/

namespace RepoSurvey.Limiter

/-- Lets several things happen, one after the other. -/
def run (limiter : Limiter) (events : List Event) : Limiter := events.foldl after limiter

/-- A limiter that nobody has asked yet. -/
def idle (interval now : Nat) : Limiter := { interval, now }

/-- The callers that have asked and still wait, the one with the lock first. -/
def pending (limiter : Limiter) : List Nat :=
  (limiter.holder.map (·.caller)).toList ++ limiter.line

/-- The callers that have got a turn, the latest first. -/
def granted (limiter : Limiter) : List Nat := limiter.grants.map (·.caller)

@[simp] theorem run_nil (limiter : Limiter) : limiter.run [] = limiter := rfl

@[simp] theorem run_cons (limiter : Limiter) (event : Event) (rest : List Event) :
    limiter.run (event :: rest) = (limiter.after event).run rest := rfl

/-! ## What one event does -/

/-- All that can come of an event. -/
inductive Step (limiter : Limiter) : Event → Limiter → Prop
  | ask : Step limiter .ask
      { limiter with asked := limiter.asked + 1, line := limiter.line ++ [limiter.asked] }
  | enter {caller : Nat} (isFree : limiter.holder = none) (waits : caller ∈ limiter.line) :
      Step limiter (.enter caller)
        { limiter with line := limiter.line.erase caller, holder := some ⟨caller, .entered⟩ }
  | look {caller : Nat} (holds : limiter.holder = some ⟨caller, .entered⟩) :
      Step limiter .look { limiter with holder := some ⟨caller, limiter.found⟩ }
  | sleep {caller delay : Nat} (holds : limiter.holder = some ⟨caller, .delayed delay⟩) :
      Step limiter .sleep
        { limiter with holder := some ⟨caller, .asleep (limiter.now + delay)⟩ }
  | wake {caller wakesAt : Nat} (holds : limiter.holder = some ⟨caller, .asleep wakesAt⟩)
      (isDue : wakesAt ≤ limiter.now) :
      Step limiter .wake { limiter with holder := some ⟨caller, .ready⟩ }
  | take {caller : Nat} (holds : limiter.holder = some ⟨caller, .ready⟩) :
      Step limiter .take (limiter.grant caller)
  | giveUp {caller : Nat} {stage : Stage} (holds : limiter.holder = some ⟨caller, stage⟩) :
      Step limiter (.leave caller) { limiter with holder := none }
  | leave {caller : Nat} (holdsNot : limiter.holder.map (·.caller) ≠ some caller)
      (waits : caller ∈ limiter.line) :
      Step limiter (.leave caller) { limiter with line := limiter.line.erase caller }
  | pass (time : Nat) : Step limiter (.pass time) { limiter with now := limiter.now + time }

theorem Step.of_after? {limiter later : Limiter} {event : Event}
    (happens : limiter.after? event = some later) : Step limiter event later := by
  cases event with
  | ask =>
      cases happens
      exact .ask
  | enter caller =>
      rw [after?] at happens
      split at happens
      · rename_i mayEnter
        cases happens
        exact .enter mayEnter.1 mayEnter.2
      · cases happens
  | look =>
      rw [after?] at happens
      split at happens
      · rename_i holds
        cases happens
        exact .look holds
      · cases happens
  | sleep =>
      rw [after?] at happens
      split at happens
      · rename_i holds
        cases happens
        exact .sleep holds
      · cases happens
  | wake =>
      rw [after?] at happens
      split at happens
      · rename_i holds
        split at happens
        · rename_i isDue
          cases happens
          exact .wake holds isDue
        · cases happens
      · cases happens
  | take =>
      rw [after?] at happens
      split at happens
      · rename_i holds
        cases happens
        exact .take holds
      · cases happens
  | leave caller =>
      rw [after?] at happens
      split at happens
      · rename_i isHolder
        cases happens
        obtain ⟨⟨_, stage⟩, holds, rfl⟩ := Option.map_eq_some_iff.mp isHolder
        exact .giveUp holds
      · rename_i holdsNot
        split at happens
        · rename_i waits
          cases happens
          exact .leave holdsNot waits
        · cases happens
  | pass time =>
      cases happens
      exact .pass time

theorem after_of_after? {limiter later : Limiter} {event : Event}
    (happens : limiter.after? event = some later) : limiter.after event = later := by
  rw [after, happens, Option.getD_some]

/-- Something happens, or nothing changes. -/
theorem step_after (limiter : Limiter) (event : Event) :
    Step limiter event (limiter.after event) ∨
      limiter.after? event = none ∧ limiter.after event = limiter := by
  cases happens : limiter.after? event with
  | none => exact .inr ⟨rfl, by rw [after, happens, Option.getD_none]⟩
  | some later =>
      rw [after_of_after? happens]
      exact .inl (.of_after? happens)

/-! ## The distance between turns -/

/-- A turn at this time would be far enough from the last one. -/
def Allows (limiter : Limiter) (time : Nat) : Prop :=
  ∀ last, limiter.lastGrant = some last → last + limiter.interval ≤ time

theorem Allows.mono {limiter : Limiter} {time later : Nat} (allows : limiter.Allows time)
    (le : time ≤ later) : limiter.Allows later :=
  fun last isLast => Nat.le_trans (allows last isLast) le

/-- A caller that has come so far does not take its turn too early. -/
def Trusts (limiter : Limiter) : Stage → Prop
  | .entered => True
  | .delayed delay => limiter.Allows (limiter.now + delay)
  | .asleep wakesAt => limiter.Allows wakesAt
  | .ready => limiter.Allows limiter.now

/-- What a caller finds when it looks at the clock can be trusted. -/
theorem trusts_found {limiter : Limiter}
    (isPast : ∀ last, limiter.lastGrant = some last → last ≤ limiter.now) :
    limiter.Trusts limiter.found := by
  unfold found
  split
  · rename_i noGrant
    intro last isLast
    rw [noGrant] at isLast
    cases isLast
  · rename_i last isLast
    have notAhead := isPast last isLast
    dsimp only
    split
    · intro other isOther
      rw [isLast] at isOther
      cases isOther
      omega
    · intro other isOther
      rw [isLast] at isOther
      cases isOther
      omega

/-- The turns so far keep their distance, and so will the next one. -/
structure Spaced (interval : Nat) (limiter : Limiter) : Prop where
  interval_eq : limiter.interval = interval
  apart : limiter.grants.IsChain fun later earlier => earlier.time + interval ≤ later.time
  last_eq : limiter.lastGrant = limiter.grants.head?.map (·.time)
  isPast : ∀ last, limiter.lastGrant = some last → last ≤ limiter.now
  trusted : ∀ holder, limiter.holder = some holder → limiter.Trusts holder.stage

theorem spaced_idle (interval now : Nat) : Spaced interval (idle interval now) where
  interval_eq := rfl
  apart := .nil
  last_eq := rfl
  isPast := by simp [idle]
  trusted := by simp [idle]

namespace Spaced

variable {interval : Nat} {limiter : Limiter}

/-- The caller with the lock comes further; nothing else changes. -/
theorem withHolder (spaced : Spaced interval limiter) {holder : Option Holder}
    (trusted : ∀ found, holder = some found → limiter.Trusts found.stage) :
    Spaced interval { limiter with holder } where
  interval_eq := spaced.interval_eq
  apart := spaced.apart
  last_eq := spaced.last_eq
  isPast := spaced.isPast
  trusted found isFound := by
    have isTrusted := trusted found isFound
    cases stage_eq : found.stage <;> rw [stage_eq] at isTrusted <;> exact isTrusted

theorem advance (spaced : Spaced interval limiter) {caller : Nat} {stage : Stage}
    (trusted : limiter.Trusts stage) :
    Spaced interval { limiter with holder := some ⟨caller, stage⟩ } := by
  refine spaced.withHolder fun found isFound => ?_
  cases isFound
  exact trusted

theorem pass (spaced : Spaced interval limiter) (time : Nat) :
    Spaced interval { limiter with now := limiter.now + time } where
  interval_eq := spaced.interval_eq
  apart := spaced.apart
  last_eq := spaced.last_eq
  isPast last isLast := Nat.le_trans (spaced.isPast last isLast) (Nat.le_add_right _ _)
  trusted holder holds := by
    have trusted := spaced.trusted holder holds
    cases stage_eq : holder.stage with
    | entered => trivial
    | delayed delay =>
        rw [stage_eq] at trusted
        have allows : limiter.Allows (limiter.now + delay) := trusted
        refine allows.mono ?_
        dsimp only
        omega
    | asleep wakesAt =>
        rw [stage_eq] at trusted
        exact trusted
    | ready =>
        rw [stage_eq] at trusted
        have allows : limiter.Allows limiter.now := trusted
        exact allows.mono (Nat.le_add_right _ _)

theorem grant (spaced : Spaced interval limiter) (isAllowed : limiter.Allows limiter.now)
    (caller : Nat) : Spaced interval (limiter.grant caller) where
  interval_eq := spaced.interval_eq
  apart := by
    refine .cons spaced.apart fun last isLast => ?_
    rw [← spaced.interval_eq]
    refine isAllowed last.time ?_
    rw [spaced.last_eq, isLast]
    rfl
  last_eq := rfl
  isPast last isLast := by
    cases isLast
    exact Nat.le_refl _
  trusted := by simp [Limiter.grant]

theorem step (spaced : Spaced interval limiter) {event : Event} {later : Limiter}
    (happens : Step limiter event later) : Spaced interval later := by
  cases happens with
  | ask => exact ⟨spaced.1, spaced.2, spaced.3, spaced.4, spaced.5⟩
  | @enter caller isFree waits =>
      have entered : Spaced interval { limiter with holder := some ⟨caller, .entered⟩ } :=
        spaced.advance trivial
      exact ⟨entered.1, entered.2, entered.3, entered.4, entered.5⟩
  | look holds => exact spaced.advance (trusts_found spaced.isPast)
  | sleep holds => exact spaced.advance (spaced.trusted _ holds)
  | wake holds isDue =>
      have allows : limiter.Allows _ := spaced.trusted _ holds
      exact spaced.advance (allows.mono isDue)
  | take holds => exact spaced.grant (spaced.trusted _ holds) _
  | giveUp holds => exact spaced.withHolder (by simp)
  | leave holdsNot waits => exact ⟨spaced.1, spaced.2, spaced.3, spaced.4, spaced.5⟩
  | pass time => exact spaced.pass time

theorem after (spaced : Spaced interval limiter) (event : Event) :
    Spaced interval (limiter.after event) := by
  rcases limiter.step_after event with happens | ⟨_, same⟩
  · exact spaced.step happens
  · rwa [same]

theorem run (spaced : Spaced interval limiter) (events : List Event) :
    Spaced interval (limiter.run events) := by
  induction events generalizing limiter with
  | nil => exact spaced
  | cons event rest ih => exact ih (spaced.after event)

end Spaced

/-! ## What becomes of each caller -/

/-- The caller that gives up with an event. -/
def leaver (limiter : Limiter) : Event → List Nat
  | .leave caller => if caller ∈ limiter.pending then [caller] else []
  | _ => []

/-- The callers that give up while several things happen. -/
def leavers (limiter : Limiter) : List Event → List Nat
  | [] => []
  | event :: rest => limiter.leaver event ++ (limiter.after event).leavers rest

theorem pending_of_holder {limiter : Limiter} {holder : Holder}
    (holds : limiter.holder = some holder) :
    limiter.pending = holder.caller :: limiter.line := by
  rw [pending, holds]
  rfl

theorem pending_of_free {limiter : Limiter} (isFree : limiter.holder = none) :
    limiter.pending = limiter.line := by
  rw [pending, isFree]
  rfl

theorem mem_pending_of_mem_line {limiter : Limiter} {caller : Nat}
    (waits : caller ∈ limiter.line) : caller ∈ limiter.pending :=
  List.mem_append_right _ waits

theorem leaver_of_after?_none {limiter : Limiter} {event : Event}
    (impossible : limiter.after? event = none) :
    limiter.leaver event = [] := by
  cases event with
  | leave caller =>
      rw [after?] at impossible
      split at impossible
      · cases impossible
      · rename_i holdsNot
        split at impossible
        · cases impossible
        · rename_i waitsNot
          rw [leaver, if_neg]
          rw [pending, List.mem_append, Option.mem_toList]
          rintro (holds | waits)
          · exact holdsNot holds
          · exact waitsNot waits
  | _ => rfl

/-- Each caller that has asked is pending, or has got one turn, or is among those that have left. -/
def Accounts (limiter : Limiter) (left : List Nat) : Prop :=
  (limiter.pending ++ limiter.granted ++ left).Perm (List.range limiter.asked)

namespace Accounts

variable {limiter : Limiter} {left : List Nat}

/-- Callers may go on to another place, as long as nobody is lost. -/
theorem of_perm (accounts : limiter.Accounts left) {later : Limiter} {gone : List Nat}
    (asked_eq : later.asked = limiter.asked)
    (moved : (later.pending ++ later.granted ++ gone).Perm
      (limiter.pending ++ limiter.granted ++ left)) : later.Accounts gone := by
  rw [Accounts, asked_eq]
  exact moved.trans accounts

/-- Nobody leaves. -/
theorem of_nobody (accounts : limiter.Accounts left) {later : Limiter}
    (asked_eq : later.asked = limiter.asked)
    (moved : (later.pending ++ later.granted).Perm (limiter.pending ++ limiter.granted)) :
    later.Accounts (left ++ []) := by
  rw [List.append_nil]
  exact accounts.of_perm asked_eq (moved.append_right left)

theorem ask (accounts : limiter.Accounts left) :
    ({ limiter with
      asked := limiter.asked + 1, line := limiter.line ++ [limiter.asked] } : Limiter).Accounts
        (left ++ []) := by
  have added := accounts.append_right [limiter.asked]
  rw [← List.range_succ] at added
  refine List.Perm.trans ?_ added
  rw [List.perm_iff_count]
  intro caller
  simp only [pending, granted, List.count_append, List.count_nil]
  omega

theorem step (accounts : limiter.Accounts left) {event : Event} {later : Limiter}
    (happens : Step limiter event later) : later.Accounts (left ++ limiter.leaver event) := by
  cases happens with
  | ask => exact accounts.ask
  | enter isFree waits =>
      refine accounts.of_nobody rfl ?_
      rw [pending_of_free isFree, pending_of_holder rfl]
      exact (List.perm_cons_erase waits).symm.append_right _
  | look holds =>
      refine accounts.of_nobody rfl ?_
      rw [pending_of_holder holds, pending_of_holder rfl]
      exact .refl _
  | sleep holds =>
      refine accounts.of_nobody rfl ?_
      rw [pending_of_holder holds, pending_of_holder rfl]
      exact .refl _
  | wake holds =>
      refine accounts.of_nobody rfl ?_
      rw [pending_of_holder holds, pending_of_holder rfl]
      exact .refl _
  | take holds =>
      refine accounts.of_nobody rfl ?_
      rw [pending_of_holder holds, pending_of_free rfl]
      exact List.perm_middle
  | giveUp holds =>
      refine accounts.of_perm rfl ?_
      rw [leaver, pending_of_holder holds, pending_of_free rfl, if_pos List.mem_cons_self,
        ← List.append_assoc]
      exact List.perm_append_singleton _ _
  | leave holdsNot waits =>
      refine accounts.of_perm rfl ?_
      rw [leaver, if_pos (mem_pending_of_mem_line waits), List.perm_iff_count]
      intro other
      have count_eq := (List.perm_cons_erase waits).count_eq other
      simp only [List.count_cons] at count_eq
      simp only [pending, granted, List.count_append, List.count_singleton, count_eq]
      omega
  | pass time => exact accounts.of_nobody rfl (.refl _)

theorem after (accounts : limiter.Accounts left) (event : Event) :
    (limiter.after event).Accounts (left ++ limiter.leaver event) := by
  rcases limiter.step_after event with happens | ⟨impossible, same⟩
  · exact accounts.step happens
  · rwa [same, leaver_of_after?_none impossible, List.append_nil]

theorem run (accounts : limiter.Accounts left) (events : List Event) :
    (limiter.run events).Accounts (left ++ limiter.leavers events) := by
  induction events generalizing limiter left with
  | nil => rwa [run_nil, leavers, List.append_nil]
  | cons event rest ih =>
      rw [run_cons, leavers, ← List.append_assoc]
      exact ih (accounts.after event)

/-- No caller has asked under two names. -/
theorem nodup (accounts : limiter.Accounts left) :
    (limiter.pending ++ limiter.granted ++ left).Nodup :=
  List.Perm.nodup accounts.symm List.nodup_range

end Accounts

theorem accounts_idle (interval now : Nat) : (idle interval now).Accounts [] := .refl _

/-! ## Everyone who stays gets a turn -/

/-- The caller with the lock gets its turn, and only time passes meanwhile. -/
theorem finish_eq_grant {limiter : Limiter} {holder : Holder}
    (holds : limiter.holder = some holder) :
    ∃ time, limiter.finish = { limiter with now := time }.grant holder.caller := by
  obtain ⟨interval, now, lastGrant, asked, line, _, grants⟩ := limiter
  obtain ⟨caller, stage⟩ := holder
  subst holds
  cases stage with
  | entered =>
      cases lastGrant with
      | none => exact ⟨now, rfl⟩
      | some last =>
          by_cases isEarly : now - last < interval
          · refine ⟨now + (interval - (now - last)), ?_⟩
            simp [finish, after, after?, found, isEarly, rest, grant]
          · refine ⟨now, ?_⟩
            simp [finish, after, after?, found, isEarly, rest, grant]
  | delayed delay =>
      refine ⟨now + delay, ?_⟩
      simp [finish, after, after?, rest, grant]
  | asleep wakesAt =>
      have isDue : wakesAt ≤ now + (wakesAt - now) := by omega
      refine ⟨now + (wakesAt - now), ?_⟩
      simp [finish, after, after?, rest, grant, isDue]
  | ready => exact ⟨now, rfl⟩

theorem finish_held {limiter : Limiter} {holder : Holder}
    (holds : limiter.holder = some holder) :
    limiter.finish.pending = limiter.line ∧
      limiter.finish.granted = holder.caller :: limiter.granted := by
  obtain ⟨time, finish_eq⟩ := finish_eq_grant holds
  rw [finish_eq]
  exact ⟨pending_of_free rfl, rfl⟩

/-- The first of those who wait gets its turn, and the others stay as they are. -/
theorem serve_first {limiter : Limiter} {first : Nat} {others : List Nat}
    (pending_eq : limiter.pending = first :: others) :
    limiter.serve.pending = others ∧ limiter.serve.granted = first :: limiter.granted := by
  cases isHeld : limiter.holder with
  | none =>
      rw [pending_of_free isHeld] at pending_eq
      have enters : limiter.after (.enter first) =
          { limiter with line := others, holder := some ⟨first, .entered⟩ } := by
        refine after_of_after? ?_
        rw [after?, if_pos ⟨isHeld, by rw [pending_eq]; exact List.mem_cons_self⟩, pending_eq,
          List.erase_cons_head]
      rw [serve, pending_eq]
      dsimp only
      rw [enters]
      have held : ({ limiter with line := others, holder := some ⟨first, .entered⟩ } :
          Limiter).holder = some ⟨first, .entered⟩ := rfl
      exact finish_held held
  | some holder =>
      rw [pending_of_holder isHeld] at pending_eq
      obtain ⟨rfl, rfl⟩ := List.cons.inj pending_eq
      rw [serve]
      split
      · exact finish_held isHeld
      · rename_i next _ _
        have isKept : limiter.after (.enter next) = limiter := by
          rw [after, after?, if_neg, Option.getD_none]
          rw [isHeld]
          exact fun mayEnter => Option.some_ne_none holder mayEnter.1
        rw [isKept]
        exact finish_held isHeld

/-- Serving goes on until everyone has got a turn. -/
theorem serve_all (limiter : Limiter) :
    (serve^[limiter.pending.length] limiter).pending = [] ∧
      (serve^[limiter.pending.length] limiter).granted =
        limiter.pending.reverse ++ limiter.granted := by
  induction pending_eq : limiter.pending generalizing limiter with
  | nil => exact ⟨pending_eq, rfl⟩
  | cons first others ih =>
      obtain ⟨others_eq, granted_eq⟩ := serve_first pending_eq
      have rest := ih limiter.serve others_eq
      rw [granted_eq] at rest
      rw [List.length_cons, Function.iterate_succ_apply, List.reverse_cons, List.append_assoc]
      exact rest

/-! ## What holds whatever happens -/

/-- What a limiter keeps to when some callers have left. -/
structure KeepsTurns (interval : Nat) (limiter : Limiter) (left : List Nat) : Prop where
  /-- Two turns in a row are not closer together than the interval. -/
  apart : limiter.grants.IsChain fun later earlier => earlier.time + interval ≤ later.time
  /-- No turn comes before an earlier one, or lies ahead. -/
  inOrder : limiter.grants.Pairwise fun later earlier => earlier.time ≤ later.time
  notAhead : ∀ grant ∈ limiter.grants, grant.time ≤ limiter.now
  /-- The turn that is remembered is the latest one that was granted. -/
  remembered : limiter.lastGrant = limiter.grants.head?.map (·.time)
  /-- Every caller that has asked waits, or has got one turn, or has left without one. -/
  accounts : (limiter.pending ++ limiter.granted ++ left).Perm (List.range limiter.asked)
  /-- Who leaves is not waited for any more; nothing else changes. -/
  leaving : ∀ caller ∈ limiter.pending,
    (limiter.after (.leave caller)).pending = limiter.pending.erase caller ∧
      (limiter.after (.leave caller)).grants = limiter.grants ∧
        (limiter.after (.leave caller)).lastGrant = limiter.lastGrant ∧
          (limiter.after (.leave caller)).now = limiter.now
  /-- Who has left never gets a turn. -/
  gone : ∀ caller ∈ limiter.pending, ∀ events,
    caller ∉ ((limiter.after (.leave caller)).run events).granted
  /-- Everyone who stays can get a turn. -/
  usable : (serve^[limiter.pending.length] limiter).pending = [] ∧
    (serve^[limiter.pending.length] limiter).granted = limiter.pending.reverse ++ limiter.granted

theorem Spaced.inOrder {interval : Nat} {limiter : Limiter} (spaced : Spaced interval limiter) :
    limiter.grants.Pairwise fun later earlier => earlier.time ≤ later.time := by
  have isTrans : IsTrans Grant fun later earlier => earlier.time ≤ later.time :=
    ⟨fun _ _ _ first second => Nat.le_trans second first⟩
  refine List.isChain_iff_pairwise.mp (spaced.apart.imp fun later earlier isApart => ?_)
  exact Nat.le_trans (Nat.le_add_right _ _) isApart

theorem Spaced.notAhead {interval : Nat} {limiter : Limiter} (spaced : Spaced interval limiter) :
    ∀ grant ∈ limiter.grants, grant.time ≤ limiter.now := by
  have inOrder := spaced.inOrder
  have last_eq := spaced.last_eq
  cases grants_eq : limiter.grants with
  | nil => exact List.forall_mem_nil _
  | cons latest earlier =>
      rw [grants_eq] at inOrder last_eq
      have latestPast := spaced.isPast latest.time last_eq
      refine List.forall_mem_cons.mpr ⟨latestPast, fun grant isEarlier => ?_⟩
      exact Nat.le_trans (List.rel_of_pairwise_cons inOrder isEarlier) latestPast

theorem after_leave {limiter : Limiter} {caller : Nat} (isPending : caller ∈ limiter.pending) :
    (limiter.after (.leave caller)).pending = limiter.pending.erase caller ∧
      (limiter.after (.leave caller)).grants = limiter.grants ∧
        (limiter.after (.leave caller)).lastGrant = limiter.lastGrant ∧
          (limiter.after (.leave caller)).now = limiter.now := by
  rcases limiter.step_after (.leave caller) with happens | ⟨impossible, _⟩
  · generalize limiter.after (.leave caller) = later at happens ⊢
    cases happens with
    | giveUp holds =>
        refine ⟨?_, rfl, rfl, rfl⟩
        rw [pending_of_holder holds, pending_of_free rfl, List.erase_cons_head]
    | leave holdsNot waits =>
        refine ⟨?_, rfl, rfl, rfl⟩
        have notFirst : caller ∉ (limiter.holder.map (·.caller)).toList := by
          rw [Option.mem_toList]
          exact holdsNot
        rw [pending, pending, List.erase_append_right _ notFirst]
  · have nobody := leaver_of_after?_none impossible
    rw [leaver, if_pos isPending] at nobody
    cases nobody

theorem keepsTurns {interval : Nat} {limiter : Limiter} {left : List Nat}
    (spaced : Spaced interval limiter) (accounts : limiter.Accounts left) :
    KeepsTurns interval limiter left where
  apart := spaced.apart
  inOrder := spaced.inOrder
  notAhead := spaced.notAhead
  remembered := spaced.last_eq
  accounts := accounts
  leaving _ isPending := after_leave isPending
  gone caller isPending events isGranted := by
    have later := ((accounts.after (.leave caller)).run events).nodup
    rw [leaver, if_pos isPending] at later
    have isLeft : caller ∈ left ++ [caller] ++ (limiter.after (.leave caller)).leavers events := by
      simp
    exact (List.disjoint_of_nodup_append later) (List.mem_append_right _ isGranted) isLeft
  usable := limiter.serve_all

/-- Whatever happens at a limiter, and in whatever order: turns are at least the interval apart, every
caller that has asked waits or has got exactly one turn or has left without one, and who leaves changes
nothing for those who stay. -/
theorem turns_keep_apart (interval now : Nat) (events : List Event) :
    KeepsTurns interval ((idle interval now).run events) ((idle interval now).leavers events) :=
  keepsTurns ((spaced_idle interval now).run events) ((accounts_idle interval now).run events)

/-- The second caller leaves in its sleep, and the third one oversleeps. -/
example : ((idle 10 0).run [.ask, .ask, .ask, .enter 0, .look, .take, .enter 1, .look, .sleep, .pass 4,
    .leave 1, .enter 2, .look, .sleep, .pass 9, .wake, .take]).grants = [⟨2, 13⟩, ⟨0, 0⟩] := by
  decide

end RepoSurvey.Limiter
