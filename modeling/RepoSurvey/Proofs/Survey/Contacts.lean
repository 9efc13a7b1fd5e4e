import RepoSurvey.Proofs.Survey.Turns
import RepoSurvey.Survey.Run

/-!
# Turns and calls

A client that waits for its turns shares a limiter with others.  Each of its calls has a turn of its own,
which was granted before.  So calls are as far apart as turns are, if the clock stands still between a turn
and its call.

Between the turns the limiter may do anything but grant a turn: callers get in line, sleep, wake up or
leave, and time passes.
-/

namespace RepoSurvey

variable {σ Source α β : Type}

/-! ## Turns and calls -/

/-- A prompt that the completion service was called with, and its answer. -/
structure Call where
  prompt : String
  answer : Except String String
  deriving DecidableEq

/-- What happens between a survey and the completion service. -/
inductive Contact
  | turn (time : Nat)
  /-- The time is when the call starts. -/
  | call (call : Call) (time : Nat)
  deriving DecidableEq

namespace Contact

/-- The times of the turns. -/
def turnTimes : List Contact → List Nat :=
  List.filterMap fun contact => match contact with
    | turn time => some time
    | call _ _ => none

/-- The times at which calls start. -/
def callTimes : List Contact → List Nat :=
  List.filterMap fun contact => match contact with
    | turn _ => none
    | call _ time => some time

def calls : List Contact → List Call :=
  List.filterMap fun contact => match contact with
    | turn _ => none
    | call called _ => some called

/-- Each call uses a turn that was granted before. So many turns are `unused` at the start. -/
def Admitted : (unused : Nat) → List Contact → Prop
  | _, [] => True
  | unused, turn _ :: rest => Admitted (unused + 1) rest
  | unused, call _ _ :: rest => 0 < unused ∧ Admitted (unused - 1) rest

/-- The clock stands still while a turn is unused. `now` is the time at the start. -/
def Punctual : (unused : Nat) → (now : Nat) → List Contact → Prop
  | _, _, [] => True
  | unused, now, turn time :: rest => (0 < unused → time = now) ∧ Punctual (unused + 1) time rest
  | unused, now, call _ time :: rest => (0 < unused → time = now) ∧ Punctual (unused - 1) time rest

@[simp] theorem turnTimes_nil : turnTimes [] = [] := rfl

@[simp] theorem turnTimes_turn (time : Nat) (rest : List Contact) :
    turnTimes (turn time :: rest) = time :: turnTimes rest := rfl

@[simp] theorem turnTimes_call (called : Call) (time : Nat) (rest : List Contact) :
    turnTimes (call called time :: rest) = turnTimes rest := rfl

@[simp] theorem callTimes_nil : callTimes [] = [] := rfl

@[simp] theorem callTimes_turn (time : Nat) (rest : List Contact) :
    callTimes (turn time :: rest) = callTimes rest := rfl

@[simp] theorem callTimes_call (called : Call) (time : Nat) (rest : List Contact) :
    callTimes (call called time :: rest) = time :: callTimes rest := rfl

@[simp] theorem turnTimes_append (first others : List Contact) :
    turnTimes (first ++ others) = turnTimes first ++ turnTimes others :=
  List.filterMap_append

@[simp] theorem callTimes_append (first others : List Contact) :
    callTimes (first ++ others) = callTimes first ++ callTimes others :=
  List.filterMap_append

theorem length_callTimes (contacts : List Contact) :
    (callTimes contacts).length = (calls contacts).length := by
  induction contacts with
  | nil => rfl
  | cons contact rest ih =>
      cases contact with
      | turn _ => exact ih
      | call _ _ => exact congrArg (· + 1) ih

theorem admitted_append_turn {contacts : List Contact} {unused : Nat}
    (isAdmitted : Admitted unused contacts) (time : Nat) :
    Admitted unused (contacts ++ [turn time]) := by
  induction contacts generalizing unused with
  | nil => trivial
  | cons contact rest ih =>
      cases contact with
      | turn _ => exact ih isAdmitted
      | call _ _ => exact ⟨isAdmitted.1, ih isAdmitted.2⟩

theorem admitted_append_call {contacts : List Contact} {unused : Nat}
    (isAdmitted : Admitted unused contacts)
    (isUnused : (callTimes contacts).length < unused + (turnTimes contacts).length)
    (called : Call) (time : Nat) : Admitted unused (contacts ++ [call called time]) := by
  induction contacts generalizing unused with
  | nil =>
      have hasTurn : 0 < unused := by simpa using isUnused
      exact ⟨hasTurn, trivial⟩
  | cons contact rest ih =>
      cases contact with
      | turn _ =>
          simp only [callTimes_turn, turnTimes_turn, List.length_cons] at isUnused
          apply ih isAdmitted
          omega
      | call _ _ =>
          simp only [callTimes_call, turnTimes_call, List.length_cons] at isUnused
          obtain ⟨hasTurn, areAdmitted⟩ := isAdmitted
          refine ⟨hasTurn, ih areAdmitted ?_⟩
          omega

/-- If the clock stands still while a turn is unused, the calls start at the times of the first turns. -/
theorem callTimes_prefix {contacts : List Contact} {unused now : Nat}
    (isAdmitted : Admitted unused contacts) (isPunctual : Punctual unused now contacts) :
    callTimes contacts <+: List.replicate unused now ++ turnTimes contacts := by
  induction contacts generalizing unused now with
  | nil => exact List.nil_prefix
  | cons contact rest ih =>
      cases contact with
      | turn time =>
          obtain ⟨isNow, arePunctual⟩ := isPunctual
          have areFirst := ih isAdmitted arePunctual
          have sameTurns : List.replicate unused now ++ time :: turnTimes rest =
              List.replicate (unused + 1) time ++ turnTimes rest := by
            rw [List.replicate_succ', List.append_assoc]
            by_cases hasTurn : 0 < unused
            · rw [isNow hasTurn]
              rfl
            · have noTurn : unused = 0 := by omega
              rw [noTurn]
              rfl
          rw [callTimes_turn, turnTimes_turn, sameTurns]
          exact areFirst
      | call called time =>
          obtain ⟨hasTurn, areAdmitted⟩ := isAdmitted
          obtain ⟨isNow, arePunctual⟩ := isPunctual
          have areFirst := ih areAdmitted arePunctual
          obtain ⟨others, rfl⟩ : ∃ others, unused = others + 1 := ⟨unused - 1, by omega⟩
          rw [callTimes_call, turnTimes_call, List.replicate_succ, ← isNow hasTurn]
          exact (List.prefix_cons_inj time).mpr areFirst

end Contact

/-! ## What an action does to the limiter -/

/-- Anything may have happened at a limiter, except that a turn was granted. -/
def Limiter.Bides (limiter later : Limiter) : Prop :=
  ∃ events, Event.take ∉ events ∧ later = limiter.run events

theorem Limiter.grants_after {limiter : Limiter} {event : Event} (notTake : event ≠ .take) :
    (limiter.after event).grants = limiter.grants := by
  obtain happens | ⟨_, same⟩ := limiter.step_after event
  · generalize limiter.after event = later at happens ⊢
    cases happens with
    | take => exact absurd rfl notTake
    | _ => rfl
  · rw [same]

theorem Limiter.grants_run {limiter : Limiter} {events : List Event}
    (noTake : Event.take ∉ events) : (limiter.run events).grants = limiter.grants := by
  induction events generalizing limiter with
  | nil => rfl
  | cons event rest ih =>
      rw [List.mem_cons, not_or] at noTake
      rw [run_cons, ih noTake.2]
      exact grants_after (Ne.symm noTake.1)

theorem Limiter.Bides.refl (limiter : Limiter) : limiter.Bides limiter := ⟨[], List.not_mem_nil, rfl⟩

theorem Limiter.Bides.trans {limiter later last : Limiter} (first : limiter.Bides later)
    (second : later.Bides last) : limiter.Bides last := by
  obtain ⟨events, noTake, rfl⟩ := first
  obtain ⟨others, noOther, rfl⟩ := second
  refine ⟨events ++ others, ?_, List.foldl_append.symm⟩
  rw [List.mem_append]
  exact fun isTaken => isTaken.elim noTake noOther

theorem Limiter.Bides.spaced {limiter later : Limiter} {interval : Nat}
    (bides : limiter.Bides later) (spaced : limiter.Spaced interval) : later.Spaced interval := by
  obtain ⟨events, _, rfl⟩ := bides
  exact spaced.run events

theorem Limiter.Bides.grants_eq {limiter later : Limiter} (bides : limiter.Bides later) :
    later.grants = limiter.grants := by
  obtain ⟨events, noTake, rfl⟩ := bides
  exact grants_run noTake

/-- When nobody waits, a caller that asks gets the next turn. -/
theorem Limiter.acquire_takes {limiter : Limiter} (nobodyWaits : limiter.pending = []) :
    (∃ waiting, limiter.Bides waiting ∧ waiting.after? .take = some limiter.acquire) ∧
      limiter.acquire.pending = [] := by
  have isAlone : (limiter.after .ask).pending = [limiter.asked] := by
    have grows : (limiter.after .ask).pending = limiter.pending ++ [limiter.asked] :=
      (List.append_assoc _ _ _).symm
    rw [grows, nobodyWaits, List.nil_append]
  obtain ⟨pending_eq, granted_eq⟩ := serve_first isAlone
  refine ⟨?_, pending_eq⟩
  let entered := (limiter.after .ask).after (.enter limiter.asked)
  let resting := (entered.after .look).after .sleep
  let events : List Event :=
    [.ask, .enter limiter.asked, .look, .sleep, .pass resting.rest, .wake]
  have noTake : Event.take ∉ events := by simp [events]
  refine ⟨limiter.run events, ⟨events, noTake, rfl⟩, ?_⟩
  have acquire_eq : limiter.acquire = (limiter.run events).after .take := by
    have noLine : limiter.line = [] := (List.append_eq_nil_iff.mp nobodyWaits).2
    have line_eq : (limiter.after .ask).line = [limiter.asked] :=
      congrArg (· ++ [limiter.asked]) noLine
    rw [acquire, serve, line_eq]
    rfl
  cases taken : (limiter.run events).after? .take with
  | some later => rw [acquire_eq, after_of_after? taken]
  | none =>
      -- Without a turn there would be no more turns than before.
      have isKept : limiter.acquire = limiter.run events := by
        rw [acquire_eq, after, taken, Option.getD_none]
      have longer := congrArg List.length granted_eq
      rw [← acquire, isKept, granted, grants_run noTake, List.length_cons] at longer
      exact absurd longer (Nat.ne_of_lt (Nat.lt_succ_self _))

/-- The limiter, and the turns and calls so far, in the state of the outside. -/
structure Desk (σ : Type) where
  limiter : σ → Limiter
  contacts : σ → List Contact

/-- An action during which no turn is granted and no call starts. -/
def Desk.Bides (desk : Desk σ) (action : StateM σ α) : Prop :=
  ∀ state, (desk.limiter state).Bides (desk.limiter (action.run state).2) ∧
    desk.contacts (action.run state).2 = desk.contacts state

namespace Desk.Bides

variable {desk : Desk σ}

theorem pure (value : α) : desk.Bides (Pure.pure value) :=
  fun state => ⟨.refl (desk.limiter state), rfl⟩

theorem bind {action : StateM σ α} {next : α → StateM σ β} (first : desk.Bides action)
    (others : ∀ value, desk.Bides (next value)) : desk.Bides (action >>= next) := by
  intro state
  obtain ⟨firstBides, firstContacts⟩ := first state
  obtain ⟨othersBide, otherContacts⟩ := others (action.run state).1 (action.run state).2
  exact ⟨firstBides.trans othersBide, otherContacts.trans firstContacts⟩

theorem loadFrom {files : FileOperations (StateM σ)} {path : String}
    (reads : desk.Bides (files.read path).run) :
    desk.Bides (SurveySettings.loadFrom files path) := by
  refine bind reads fun answer => ?_
  cases answer <;> exact pure _

theorem fetchFrom {host : RepositoryHost (StateM σ)} {file : RemoteFile}
    (fetches : desk.Bides (host.fetch file)) : desk.Bides (SurveySettings.fetchFrom host file) := by
  refine bind fetches fun answer => ?_
  cases answer <;> exact pure _

end Desk.Bides

/-- A client that waits for a turn until the limiter grants one, and whose prompts are the calls. -/
structure Summarizer.Paced (client : Summarizer (StateM σ)) (desk : Desk σ) : Prop where
  awaitTurn : ∀ state, ∃ waiting, (desk.limiter state).Bides waiting ∧
    waiting.after? .take = some (desk.limiter (client.awaitTurn.run state).2) ∧
      desk.contacts (client.awaitTurn.run state).2 =
        desk.contacts state ++ [.turn (desk.limiter (client.awaitTurn.run state).2).now]
  complete : ∀ prompt state,
    (desk.limiter state).Bides (desk.limiter ((client.complete prompt).run state).2) ∧
      desk.contacts ((client.complete prompt).run state).2 = desk.contacts state ++
        [.call ⟨prompt, ((client.complete prompt).run state).1⟩ (desk.limiter state).now]

structure Conditions.Bide (conditions : Conditions (StateM σ)) (desk : Desk σ) : Prop where
  choose : ∀ events, desk.Bides (conditions.choose events)
  awaitWorker : ∀ path, desk.Bides (conditions.awaitWorker path)

/-! ## Calls have their turns -/

/-- The turns so far keep their distance, each call had one of them, and so many turns are unused. -/
structure Desk.InTurn (desk : Desk σ) (interval : Nat) (state : σ) (unused : Nat) : Prop where
  spaced : (desk.limiter state).Spaced interval
  turns_eq : Contact.turnTimes (desk.contacts state) =
    ((desk.limiter state).grants.map (·.time)).reverse
  isAdmitted : Contact.Admitted 0 (desk.contacts state)
  used : (Contact.turnTimes (desk.contacts state)).length =
    (Contact.callTimes (desk.contacts state)).length + unused

namespace Desk.InTurn

variable {desk : Desk σ} {interval unused : Nat} {state : σ}

theorem of_idle {now : Nat} (isIdle : desk.limiter state = .idle interval now)
    (noContact : desk.contacts state = []) : desk.InTurn interval state 0 where
  spaced := by
    rw [isIdle]
    exact Limiter.spaced_idle interval now
  turns_eq := by
    rw [isIdle, noContact]
    rfl
  isAdmitted := by
    rw [noContact]
    trivial
  used := by
    rw [noContact]
    rfl

theorem bides (inTurn : desk.InTurn interval state unused) {action : StateM σ α}
    (bides : desk.Bides action) : desk.InTurn interval (action.run state).2 unused := by
  obtain ⟨limiterBides, contacts_eq⟩ := bides state
  refine ⟨limiterBides.spaced inTurn.spaced, ?_, ?_, ?_⟩
  · rw [contacts_eq, limiterBides.grants_eq]
    exact inTurn.turns_eq
  · rw [contacts_eq]
    exact inTurn.isAdmitted
  · rw [contacts_eq]
    exact inTurn.used

theorem awaitTurn (inTurn : desk.InTurn interval state unused) {client : Summarizer (StateM σ)}
    (paced : client.Paced desk) :
    desk.InTurn interval (client.awaitTurn.run state).2 (unused + 1) := by
  obtain ⟨waiting, limiterBides, taken, contacts_eq⟩ := paced.awaitTurn state
  have happens := Limiter.Step.of_after? taken
  have spaced := (limiterBides.spaced inTurn.spaced).step happens
  have turns_eq := inTurn.turns_eq
  have used := inTurn.used
  generalize later_eq : desk.limiter (client.awaitTurn.run state).2 = later
    at happens contacts_eq spaced
  cases happens with
  | take holds =>
      refine ⟨by rwa [later_eq], ?_, ?_, ?_⟩
      · rw [contacts_eq, later_eq, Contact.turnTimes_append, turns_eq, ← limiterBides.grants_eq]
        simp [Limiter.grant]
      · rw [contacts_eq]
        exact Contact.admitted_append_turn inTurn.isAdmitted _
      · rw [contacts_eq, Contact.turnTimes_append, Contact.callTimes_append]
        simp only [Contact.turnTimes_turn, Contact.turnTimes_nil, Contact.callTimes_turn,
          Contact.callTimes_nil, List.length_append, List.length_singleton, List.append_nil]
        omega

theorem complete (inTurn : desk.InTurn interval state (unused + 1))
    {client : Summarizer (StateM σ)} (paced : client.Paced desk) (prompt : String) :
    desk.InTurn interval ((client.complete prompt).run state).2 unused := by
  obtain ⟨limiterBides, contacts_eq⟩ := paced.complete prompt state
  have used := inTurn.used
  refine ⟨limiterBides.spaced inTurn.spaced, ?_, ?_, ?_⟩
  · rw [contacts_eq, limiterBides.grants_eq, Contact.turnTimes_append]
    simpa using inTurn.turns_eq
  · rw [contacts_eq]
    apply Contact.admitted_append_call inTurn.isAdmitted
    omega
  · rw [contacts_eq, Contact.turnTimes_append, Contact.callTimes_append]
    simp only [Contact.turnTimes_call, Contact.turnTimes_nil, Contact.callTimes_call,
      Contact.callTimes_nil, List.length_append, List.length_singleton, List.append_nil]
    omega

/-- Calls are as far apart as turns are, if the clock stands still between a turn and its call. -/
theorem calls_apart (inTurn : desk.InTurn interval state unused)
    (isPunctual : Contact.Punctual 0 0 (desk.contacts state)) :
    (Contact.callTimes (desk.contacts state)).Pairwise
      fun earlier later => earlier + interval ≤ later := by
  have isPrefix := Contact.callTimes_prefix inTurn.isAdmitted isPunctual
  rw [List.replicate_zero, List.nil_append] at isPrefix
  apply List.Pairwise.sublist isPrefix.sublist
  rw [inTurn.turns_eq, List.pairwise_reverse, List.pairwise_map]
  have isTrans : IsTrans Grant fun later earlier => earlier.time + interval ≤ later.time :=
    ⟨fun _ _ _ first second => by omega⟩
  exact List.isChain_iff_pairwise.mp inTurn.spaced.apart

end Desk.InTurn

end RepoSurvey
