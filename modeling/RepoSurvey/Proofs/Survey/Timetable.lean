import RepoSurvey.Proofs.Survey.Rounds

/-!
# The timetable of a limiter

What a limiter answers to one demand after another depends on three numbers: its interval, the time, and
the time of the latest turn.  A timetable computes with these three, and no limiter does anything else.

A caller that gives up leaves no trace in the timetable.  Only the time that it has waited is gone.
-/

namespace RepoSurvey.Limiter

/-- What is demanded of a limiter while nobody waits. -/
inductive Demand
  /-- One caller asks. -/
  | acquire
  /-- Time passes. -/
  | advance (time : Nat)
  /-- Several callers ask at the same time. -/
  | together (callers : Nat)
  /-- One caller asks that gives up after some time. -/
  | within (patience : Nat)
  deriving DecidableEq, Repr

/-- What comes of a demand. -/
structure Answer where
  /-- When each caller got its turn, in the order of asking. -/
  turns : List (Option Nat)
  /-- The time when the demand is met. -/
  now : Nat
  deriving DecidableEq, Repr

/-! ## Timetables -/

/-- What a limiter goes by. -/
structure Timetable where
  interval : Nat
  now : Nat
  last : Option Nat
  deriving DecidableEq, Repr

namespace Timetable

/-- The time of the next turn. -/
def due (table : Timetable) : Nat :=
  match table.last with
  | none => table.now
  | some last => max table.now (last + table.interval)

/-- The latest turn has just been granted. -/
def granted (table : Timetable) (time : Nat) : Timetable := { table with now := time, last := some time }

/-- Turns are an interval apart, the first one at the time that is due. -/
def serve (table : Timetable) : Nat → Answer × Timetable
  | 0 => (⟨[], table.now⟩, table)
  | others + 1 =>
      let latest := table.due + others * table.interval
      (⟨(List.range (others + 1)).map fun turn => some (table.due + turn * table.interval), latest⟩,
        table.granted latest)

/-- The answer to a demand, and the timetable after it. -/
def meet (table : Timetable) : Demand → Answer × Timetable
  | .acquire => (⟨[some table.due], table.due⟩, table.granted table.due)
  | .advance time => (⟨[], table.now + time⟩, { table with now := table.now + time })
  | .together callers => table.serve callers
  | .within patience =>
      if table.due ≤ table.now + patience then
        (⟨[some table.due], table.due⟩, table.granted table.due)
      else (⟨[none], table.now + patience⟩, { table with now := table.now + patience })

/-- The answers to one demand after the other. -/
def answers (table : Timetable) : List Demand → List Answer
  | [] => []
  | demand :: rest => (table.meet demand).1 :: (table.meet demand).2.answers rest

theorem answer_serve (table : Timetable) (callers : Nat) :
    (table.serve callers).1 =
      ⟨(List.range callers).map fun turn => some (table.due + turn * table.interval),
        (table.serve callers).2.now⟩ := by
  cases callers <;> rfl

theorem serve_one (table : Timetable) :
    table.serve 1 = (⟨[some table.due], table.due⟩, table.granted table.due) := by
  simp [serve]

end Timetable

/-! ## What a limiter answers -/

def timetable (limiter : Limiter) : Timetable := ⟨limiter.interval, limiter.now, limiter.lastGrant⟩

/-- Does what is demanded. -/
def meet (limiter : Limiter) : Demand → Limiter
  | .acquire => limiter.acquire
  | .advance time => limiter.after (.pass time)
  | .together callers => limiter.acquireTogether callers
  | .within patience => limiter.acquireWithin patience

def meetAll (limiter : Limiter) (demands : List Demand) : Limiter := demands.foldl meet limiter

/-- When a caller got its turn. -/
def turnTime? (limiter : Limiter) (caller : Nat) : Option Nat :=
  (limiter.grants.find? (·.caller = caller)).map (·.time)

/-- What those get to know who have asked in the meantime. -/
def answer (limiter later : Limiter) : Answer where
  turns := (List.range' limiter.asked (later.asked - limiter.asked)).map later.turnTime?
  now := later.now

/-- The answers to one demand after the other. -/
def answers (limiter : Limiter) : List Demand → List Answer
  | [] => []
  | demand :: rest => limiter.answer (limiter.meet demand) :: (limiter.meet demand).answers rest

/-- What may come of a demand, in whatever order the callers move. -/
def Meets (limiter : Limiter) : Demand → Limiter → Prop
  | .acquire => Round.Ends ⟨limiter, 1, none⟩
  | .advance time => (limiter.after (.pass time) = ·)
  | .together callers => Round.Ends ⟨limiter, callers, none⟩
  | .within patience => Round.Ends ⟨limiter, 1, some (limiter.now + patience)⟩

/-- Answers that may be given to one demand after the other. -/
inductive MeetsAll : Limiter → List Demand → List Answer → Prop
  | nil (limiter : Limiter) : MeetsAll limiter [] []
  | cons {limiter later : Limiter} {demand : Demand} {rest : List Demand} {answers : List Answer}
      (meets : limiter.Meets demand later) (meetsRest : MeetsAll later rest answers) :
      MeetsAll limiter (demand :: rest) (limiter.answer later :: answers)

/-! ## Turns in a row -/

theorem turnTime?_grant (limiter : Limiter) (caller other : Nat) :
    (limiter.grant caller).turnTime? other =
      if caller = other then some limiter.now else limiter.turnTime? other := by
  rw [turnTime?, grant, List.find?_cons]
  by_cases same : caller = other
  · simp [same]
  · simp [same, turnTime?]

/-- Nobody else gets a turn. -/
theorem turnTime?_giveTurns_of_notMem (limiter : Limiter) (time : Nat) {callers : List Nat}
    {other : Nat} (isElse : other ∉ callers) :
    (limiter.giveTurns time callers).turnTime? other = limiter.turnTime? other := by
  induction callers generalizing limiter time with
  | nil => rfl
  | cons caller others ih =>
      rw [List.mem_cons, not_or] at isElse
      obtain ⟨notFirst, notLater⟩ := isElse
      rw [giveTurns, ih _ _ notLater, turnTime?_grant, if_neg (Ne.symm notFirst)]
      rfl

/-- Everyone gets a turn, an interval after the one before. -/
theorem turnTime?_giveTurns (limiter : Limiter) (time : Nat) {callers : List Nat}
    (distinct : callers.Nodup) :
    callers.map (limiter.giveTurns time callers).turnTime? =
      (List.range callers.length).map fun turn => some (time + turn * limiter.interval) := by
  induction callers generalizing limiter time with
  | nil => rfl
  | cons caller others ih =>
      obtain ⟨isNew, othersDistinct⟩ := List.nodup_cons.mp distinct
      rw [giveTurns, List.map_cons, turnTime?_giveTurns_of_notMem _ _ isNew, turnTime?_grant,
        if_pos rfl, ih _ _ othersDistinct, List.length_cons, List.range_succ_eq_map, List.map_cons,
        List.map_map, Nat.zero_mul]
      refine congrArg _ (List.map_congr_left fun turn _ => congrArg some ?_)
      change time + limiter.interval + turn * limiter.interval = time + (turn + 1) * limiter.interval
      rw [Nat.succ_mul]
      omega

theorem timetable_giveTurns (limiter : Limiter) (time caller : Nat) (others : List Nat) :
    (limiter.giveTurns time (caller :: others)).timetable =
      limiter.timetable.granted (time + others.length * limiter.interval) := by
  induction others generalizing limiter time caller with
  | nil =>
      rw [List.length_nil, Nat.zero_mul]
      rfl
  | cons next others ih =>
      have time_eq : time + limiter.interval + others.length * limiter.interval =
          time + (others.length + 1) * limiter.interval := by
        rw [Nat.succ_mul]
        omega
      rw [giveTurns, ih, List.length_cons, ← time_eq]
      rfl

theorem asked_giveTurns (limiter : Limiter) (time : Nat) (callers : List Nat) :
    (limiter.giveTurns time callers).asked = limiter.asked := by
  induction callers generalizing limiter time with
  | nil => rfl
  | cons caller others ih => exact ih _ _

namespace Quiet

variable {limiter : Limiter}

theorem giveTurns (quiet : limiter.Quiet) (time : Nat) {callers : List Nat}
    (areKnown : ∀ caller ∈ callers, caller < limiter.asked) :
    (limiter.giveTurns time callers).Quiet := by
  induction callers generalizing limiter time with
  | nil => exact quiet
  | cons caller others ih =>
      obtain ⟨isKnown, othersKnown⟩ := List.forall_mem_cons.mp areKnown
      have granted : ({ limiter with now := time }.grant caller).Quiet := by
        refine ⟨?_, ?_, ?_⟩
        · exact (free_of_nobody quiet.nobody).2
        · rintro _ ⟨⟩
          exact Nat.le_refl _
        · exact List.forall_mem_cons.mpr ⟨isKnown, quiet.known⟩
      exact ih granted (time + limiter.interval) othersKnown

/-- Nobody waits after callers have asked and are gone. -/
theorem vacated (quiet : limiter.Quiet) (callers : Nat) (deadline : Option Nat) :
    (Round.vacated ⟨limiter, callers, deadline⟩).Quiet where
  nobody := rfl
  isPast := quiet.isPast
  known grant isGrant := Nat.lt_of_lt_of_le (quiet.known grant isGrant) (Nat.le_add_right _ _)

theorem nextTurn_eq (quiet : limiter.Quiet) : limiter.nextTurn = limiter.due := by
  rw [nextTurn, (free_of_nobody quiet.nobody).1]

end Quiet

/-- What a demand comes to agrees with the timetable. -/
structure AnswersAs (limiter : Limiter) (told : Answer × Timetable) (later : Limiter) : Prop where
  quiet : later.Quiet
  answer_eq : limiter.answer later = told.1
  timetable_eq : later.timetable = told.2

namespace Quiet

variable {limiter : Limiter}

/-- Callers that ask at the same time are served one after the other. -/
theorem serve (quiet : limiter.Quiet) (callers : Nat) (deadline : Option Nat) :
    limiter.AnswersAs (limiter.timetable.serve callers)
      ((Round.vacated ⟨limiter, callers, deadline⟩).giveTurns limiter.due
        (List.range' limiter.asked callers)) := by
  have areKnown : ∀ caller ∈ List.range' limiter.asked callers,
      caller < (Round.vacated ⟨limiter, callers, deadline⟩).asked := by
    intro caller isCaller
    exact (List.mem_range'_1.mp isCaller).2
  have timetable_eq : ((Round.vacated ⟨limiter, callers, deadline⟩).giveTurns limiter.due
      (List.range' limiter.asked callers)).timetable = (limiter.timetable.serve callers).2 := by
    cases callers with
    | zero => rfl
    | succ others =>
        rw [List.range'_succ, timetable_giveTurns, List.length_range']
        rfl
  refine ⟨(quiet.vacated callers deadline).giveTurns _ areKnown, ?_, timetable_eq⟩
  have count_eq : (Round.vacated ⟨limiter, callers, deadline⟩).asked - limiter.asked = callers :=
    Nat.add_sub_cancel_left _ _
  rw [Timetable.answer_serve, ← timetable_eq, answer, asked_giveTurns, count_eq,
    turnTime?_giveTurns _ _ List.nodup_range', List.length_range']
  rfl

theorem pass (quiet : limiter.Quiet) (time : Nat) :
    Quiet { limiter with now := limiter.now + time } where
  nobody := quiet.nobody
  isPast last isLast := Nat.le_trans (quiet.isPast last isLast) (Nat.le_add_right _ _)
  known := quiet.known

theorem advance (quiet : limiter.Quiet) (time : Nat) :
    limiter.AnswersAs (limiter.timetable.meet (.advance time)) (limiter.after (.pass time)) := by
  refine ⟨quiet.pass time, ?_, rfl⟩
  have count_eq : (limiter.after (.pass time)).asked - limiter.asked = 0 := Nat.sub_self _
  rw [answer, count_eq]
  rfl

/-- Callers that ask at the same time and do not give up. -/
theorem together (quiet : limiter.Quiet) {callers : Nat} {later : Limiter}
    (ends : Round.Ends ⟨limiter, callers, none⟩ later) :
    limiter.AnswersAs (limiter.timetable.serve callers) later := by
  have foretold_eq : Round.foretold ⟨limiter, callers, none⟩ =
      (Round.vacated ⟨limiter, callers, none⟩).giveTurns limiter.due
        (List.range' limiter.asked callers) := by
    rw [Round.foretold, quiet.callers_eq]
    dsimp only
    rw [quiet.nextTurn_eq]
    cases callers <;> rfl
  rw [ends.eq_foretold (quiet.sound_all callers), foretold_eq]
  exact quiet.serve callers none

/-- A caller that waits for its turn until a deadline. -/
theorem within (quiet : limiter.Quiet) {patience : Nat} {later : Limiter}
    (ends : Round.Ends ⟨limiter, 1, some (limiter.now + patience)⟩ later) :
    limiter.AnswersAs (limiter.timetable.meet (.within patience)) later := by
  rw [ends.eq_foretold (quiet.sound_within patience), Round.foretold, quiet.callers_eq]
  dsimp only
  rw [quiet.nextTurn_eq, List.range'_one, settled, Timetable.meet]
  by_cases isSoon : limiter.due ≤ limiter.now + patience
  · have tableSoon : limiter.timetable.due ≤ limiter.timetable.now + patience := isSoon
    rw [if_pos isSoon, if_pos tableSoon, ← Timetable.serve_one]
    exact quiet.serve 1 _
  · have tableLate : ¬limiter.timetable.due ≤ limiter.timetable.now + patience := isSoon
    rw [if_neg isSoon, if_neg tableLate]
    refine ⟨(quiet.vacated 1 _).pass patience, ?_, rfl⟩
    have count_eq : limiter.asked + 1 - limiter.asked = 1 := Nat.add_sub_cancel_left _ _
    have noTurn : limiter.turnTime? limiter.asked = none := by
      rw [turnTime?, Option.map_eq_none_iff, List.find?_eq_none]
      intro grant isGrant
      have isKnown := quiet.known grant isGrant
      simp only [decide_eq_true_eq]
      omega
    change Answer.mk ((List.range' limiter.asked (limiter.asked + 1 - limiter.asked)).map
      limiter.turnTime?) (limiter.now + patience) = _
    rw [count_eq, List.range'_one, List.map_singleton, noTurn]
    rfl

/-! ## Demands -/

/-- Whatever a demand comes to was in the timetable. -/
theorem answersAs (quiet : limiter.Quiet) {demand : Demand} {later : Limiter}
    (meets : limiter.Meets demand later) :
    limiter.AnswersAs (limiter.timetable.meet demand) later := by
  cases demand with
  | acquire =>
      rw [Timetable.meet, ← Timetable.serve_one]
      exact quiet.together meets
  | advance time =>
      subst meets
      exact quiet.advance time
  | together callers => exact quiet.together meets
  | within patience => exact quiet.within meets

/-- What a limiter computes is one of the ways to meet a demand. -/
theorem meets_meet (quiet : limiter.Quiet) (demand : Demand) :
    limiter.Meets demand (limiter.meet demand) := by
  cases demand with
  | acquire => exact quiet.ends_together 1
  | advance time => exact rfl
  | together callers => exact quiet.ends_together callers
  | within patience => exact quiet.ends_within patience

theorem meet (quiet : limiter.Quiet) (demand : Demand) : (limiter.meet demand).Quiet :=
  (quiet.answersAs (quiet.meets_meet demand)).quiet

theorem meetAll (quiet : limiter.Quiet) (demands : List Demand) :
    (limiter.meetAll demands).Quiet := by
  induction demands generalizing limiter with
  | nil => exact quiet
  | cons demand rest ih => exact ih (quiet.meet demand)

theorem answers_eq (quiet : limiter.Quiet) (demands : List Demand) :
    limiter.answers demands = limiter.timetable.answers demands := by
  induction demands generalizing limiter with
  | nil => rfl
  | cons demand rest ih =>
      have told := quiet.answersAs (quiet.meets_meet demand)
      rw [answers, Timetable.answers, told.answer_eq, ih told.quiet, told.timetable_eq]

theorem meetsAll_answers (quiet : limiter.Quiet) (demands : List Demand) :
    MeetsAll limiter demands (limiter.answers demands) := by
  induction demands generalizing limiter with
  | nil => exact .nil limiter
  | cons demand rest ih => exact .cons (quiet.meets_meet demand) (ih (quiet.meet demand))

theorem answers_of_meetsAll (quiet : limiter.Quiet) {demands : List Demand} {found : List Answer}
    (meetsAll : MeetsAll limiter demands found) : found = limiter.timetable.answers demands := by
  induction meetsAll with
  | nil => rfl
  | cons meets _ ih =>
      have told := quiet.answersAs meets
      rw [Timetable.answers, ih told.quiet, told.answer_eq, told.timetable_eq]

/-- Who gives up before its turn leaves no trace. -/
theorem timetable_of_abandoned (quiet : limiter.Quiet) {patience : Nat}
    (isLate : limiter.now + patience < limiter.due) :
    (limiter.meet (.within patience)).timetable = (limiter.meet (.advance patience)).timetable := by
  have told := quiet.answersAs (quiet.meets_meet (.within patience))
  have tableLate : ¬limiter.timetable.due ≤ limiter.timetable.now + patience :=
    Nat.not_le.mpr isLate
  rw [told.timetable_eq, Timetable.meet, if_neg tableLate]
  rfl

end Quiet

/-- A limiter grants turns as early as it may. -/
structure Punctual (limiter : Limiter) : Prop where
  /-- All demands are answered as in the timetable. -/
  answers_eq : ∀ demands, limiter.answers demands = limiter.timetable.answers demands
  /-- The order in which callers move makes no difference. -/
  onlyAnswers : ∀ demands found,
    MeetsAll limiter demands found ↔ found = limiter.timetable.answers demands
  /-- The next turn is the first one that the interval allows. -/
  asEarly : IsLeast {time | limiter.now ≤ time ∧ limiter.Allows time} limiter.timetable.due
  /-- After somebody has given up, everything is as if nobody had asked in the time that has passed. -/
  abandoned : ∀ patience, limiter.now + patience < limiter.timetable.due →
    (limiter.meet (.within patience)).timetable = (limiter.meet (.advance patience)).timetable ∧
      ∀ demands, (limiter.meet (.within patience)).answers demands =
        (limiter.meet (.advance patience)).answers demands

theorem Quiet.punctual {limiter : Limiter} (quiet : limiter.Quiet) : limiter.Punctual where
  answers_eq := quiet.answers_eq
  onlyAnswers demands found := by
    refine ⟨quiet.answers_of_meetsAll, ?_⟩
    rintro rfl
    rw [← quiet.answers_eq]
    exact quiet.meetsAll_answers demands
  asEarly := limiter.due_isLeast
  abandoned patience isLate := by
    have same := quiet.timetable_of_abandoned isLate
    refine ⟨same, fun demands => ?_⟩
    rw [(quiet.meet _).answers_eq, (quiet.meet _).answers_eq, same]

/-- After any demands, a limiter answers those that follow as its timetable tells, with turns as early as
the interval allows, and who has given up delays nobody. -/
theorem demands_are_met_on_time (interval now : Nat) (earlier : List Demand) :
    Punctual ((idle interval now).meetAll earlier) :=
  ((quiet_idle interval now).meetAll earlier).punctual

/-- The second caller gives up just before its turn, and the third one has just enough patience. -/
example : (idle 10 0).answers [.acquire, .within 9, .within 1, .together 3, .advance 25, .acquire] =
    [⟨[some 0], 0⟩, ⟨[none], 9⟩, ⟨[some 10], 10⟩, ⟨[some 20, some 30, some 40], 40⟩, ⟨[], 65⟩,
      ⟨[some 65], 65⟩] := by
  decide

end RepoSurvey.Limiter
