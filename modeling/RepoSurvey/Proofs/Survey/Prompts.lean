import RepoSurvey.Proofs.Survey.Interleaving

/-!
# Prompts that are sent

A survey asks about each file that is parsed, once.  In which order it asks depends on how the files come
along; if they come one after the other, it asks in the order of the list.
-/

namespace RepoSurvey

variable {σ Source α β : Type}

/-! ## What an action sends -/

/-- In every state an action sends prompts that are accepted together with what it gives. `sent` are the
prompts that have been sent before a state. -/
def Sends (sent : σ → List String) (action : StateM σ α) (accepts : α → List String → Prop) : Prop :=
  ∀ state, ∃ prompts, sent (action.run state).2 = sent state ++ prompts ∧
    accepts (action.run state).1 prompts

/-- An action that sends nothing. -/
def Silent (sent : σ → List String) (action : StateM σ α) : Prop :=
  Sends sent action fun _ prompts => prompts = []

namespace Sends

variable {sent : σ → List String} {accepts : α → List String → Prop}

theorem pure {value : α} (isAccepted : accepts value []) :
    Sends sent (Pure.pure value : StateM σ α) accepts :=
  fun _ => ⟨[], (List.append_nil _).symm, isAccepted⟩

theorem bind {action : StateM σ α} {next : α → StateM σ β}
    {acceptsNext : β → List String → Prop} (first : Sends sent action accepts)
    (others : ∀ value prompts, accepts value prompts →
      Sends sent (next value) fun result later => acceptsNext result (prompts ++ later)) :
    Sends sent (action >>= next) acceptsNext := by
  intro state
  obtain ⟨prompts, isSent, isAccepted⟩ := first state
  obtain ⟨later, laterSent, laterAccepted⟩ := others _ _ isAccepted (action.run state).2
  refine ⟨prompts ++ later, ?_, laterAccepted⟩
  change sent ((next (action.run state).1).run (action.run state).2).2 = _
  rw [laterSent, isSent, List.append_assoc]

theorem mono {action : StateM σ α} {others : α → List String → Prop}
    (sends : Sends sent action accepts)
    (isWider : ∀ value prompts, accepts value prompts → others value prompts) :
    Sends sent action others := by
  intro state
  obtain ⟨prompts, isSent, isAccepted⟩ := sends state
  exact ⟨prompts, isSent, isWider _ _ isAccepted⟩

/-- What an action gives and what it sends hold together. -/
theorem and_yields {action : StateM σ α} {given : α → Prop} (sends : Sends sent action accepts)
    (yields : Yields action given) :
    Sends sent action fun value prompts => given value ∧ accepts value prompts := by
  intro state
  obtain ⟨prompts, isSent, isAccepted⟩ := sends state
  exact ⟨prompts, isSent, yields state, isAccepted⟩

end Sends

theorem Silent.bind {sent : σ → List String} {action : StateM σ α} {next : α → StateM σ β}
    {accepts : β → List String → Prop} (isSilent : Silent sent action)
    (others : ∀ value, Sends sent (next value) accepts) :
    Sends sent (action >>= next) accepts :=
  Sends.bind isSilent fun value prompts nothing => by
    subst nothing
    exact others value

/-- Services that send prompts only when they are asked to complete them. `noted` is what is sent of a
prompt. -/
structure Services.Tell (services : Services (StateM σ) Source) (sent : σ → List String)
    (noted : String → List String) : Prop where
  load : ∀ source, Silent sent (services.load source)
  awaitWorker : ∀ path, Silent sent (services.awaitWorker path)
  awaitTurn : Silent sent services.awaitTurn
  complete : ∀ prompt, Sends sent (services.complete prompt) fun _ prompts => prompts = noted prompt

/-! ## The prompts about a file -/

/-- The prompt that is ready to be sent. -/
def Progress.ready (noted : String → List String) : Progress → List String
  | queued _ prompt | asking _ prompt => noted prompt
  | loading .. | parsing .. | finished _ => []

namespace Outcomes

section PromptsLeft

variable (outcomes : Outcomes Source) (noted : String → List String) (languages : Languages)
  (settings : RecordSettings) (source : Source)

/-- The prompts that are still to be sent about a file. -/
def promptsLeft : Progress → List String
  | .loading path _ =>
      match outcomes.content source with
      | .ok content =>
          (Progress.parsed languages settings path content (outcomes.lost path)).ready noted
      | .error _ => []
  | .parsing path content =>
      (Progress.parsed languages settings path content (outcomes.lost path)).ready noted
  | progress => progress.ready noted

/-- The prompts that are sent about a file from its start. -/
def prompts (file : Pending Source) : List String :=
  outcomes.promptsLeft noted languages settings file.source (.start file.path file.sizeHint)

theorem promptsLeft_loaded (path : String) (sizeHint : Nat) :
    outcomes.promptsLeft noted languages settings source
        (.loaded path sizeHint (outcomes.content source)) =
      outcomes.promptsLeft noted languages settings source (.loading path sizeHint) := by
  rw [promptsLeft]
  cases outcomes.content source <;> rfl

theorem promptsLeft_parsed (path : String) (content : ByteArray) :
    outcomes.promptsLeft noted languages settings source
        (.parsed languages settings path content (outcomes.lost path)) =
      outcomes.promptsLeft noted languages settings source (.parsing path content) := by
  rw [promptsLeft]
  obtain ⟨record, _, isFinished | ⟨limit, _, isQueued⟩⟩ :=
    Progress.parsed_cases languages settings path content (outcomes.lost path)
  · rw [isFinished]
    rfl
  · rw [isQueued]
    rfl

end PromptsLeft

end Outcomes

section Stages

variable {services : Services (StateM σ) Source} {outcomes : Outcomes Source}
  {sent : σ → List String} {noted : String → List String}
  (gives : services.Give outcomes) (tells : services.Tell sent noted) (languages : Languages)
  (settings : RecordSettings)

include gives tells

/-- In a stage of a file some of the prompts that are left are sent. -/
theorem Progress.next_sends (source : Source) (progress : Progress) :
    Sends sent (progress.next languages settings services source) fun later prompts =>
      outcomes.promptsLeft noted languages settings source progress =
        prompts ++ outcomes.promptsLeft noted languages settings source later := by
  cases progress with
  | loading path sizeHint =>
      refine ((tells.load source).and_yields (gives.load source)).bind ?_
      rintro _ _ ⟨rfl, rfl⟩
      exact .pure (outcomes.promptsLeft_loaded noted languages settings source path sizeHint).symm
  | parsing path content =>
      refine ((tells.awaitWorker path).and_yields (gives.awaitWorker path)).bind ?_
      rintro _ _ ⟨rfl, rfl⟩
      exact .pure (outcomes.promptsLeft_parsed noted languages settings source path content).symm
  | queued record prompt => exact tells.awaitTurn.bind fun _ => .pure rfl
  | asking record prompt =>
      refine (tells.complete prompt).bind ?_
      rintro answer _ rfl
      exact .pure (by simp [Outcomes.promptsLeft, ready, summarized])
  | finished record => exact .pure rfl

end Stages

namespace Window

variable (outcomes : Outcomes Source) (noted : String → List String) (languages : Languages)
  (settings : RecordSettings)

/-- The prompts that are still to be sent about the files of a window, in their order. -/
def promptsLeft (window : Window Source) : List String :=
  (window.inFlight.flatMap fun flight =>
      outcomes.promptsLeft noted languages settings flight.source flight.progress) ++
    window.waiting.flatMap (outcomes.prompts noted languages settings)

/-- Some of the prompts that were left have been sent; the first ones, if no files stand before theirs. -/
structure Asked (window later : Window Source) (prompts : List String) : Prop where
  perm : (prompts ++ later.promptsLeft outcomes noted languages settings).Perm
    (window.promptsLeft outcomes noted languages settings)
  inOrder : window.inFlight.length ≤ 1 →
    prompts ++ later.promptsLeft outcomes noted languages settings =
      window.promptsLeft outcomes noted languages settings

theorem Asked.of_eq {window later : Window Source} {prompts : List String}
    (same : prompts ++ later.promptsLeft outcomes noted languages settings =
      window.promptsLeft outcomes noted languages settings) :
    Asked outcomes noted languages settings window later prompts :=
  ⟨.of_eq same, fun _ => same⟩

variable {outcomes noted} {services : Services (StateM σ) Source} {sent : σ → List String}
  (gives : services.Give outcomes) (tells : services.Tell sent noted) (limit : Nat)

include gives tells

theorem Happens.asked {before behind : σ} {event : Event} {window later : Window Source}
    (happens : Happens languages settings services limit window before event later behind) :
    ∃ prompts, sent behind = sent before ++ prompts ∧
      Asked outcomes noted languages settings window later prompts := by
  cases happens with
  | nothing isImpossible => exact ⟨[], (List.append_nil _).symm, .of_eq _ _ _ _ rfl⟩
  | takenUp waiting_eq hasRoom =>
      refine ⟨[], (List.append_nil _).symm, .of_eq _ _ _ _ ?_⟩
      simp [promptsLeft, Outcomes.prompts, waiting_eq]
  | @advanced front back flight progress _ flights_eq isNext =>
      obtain ⟨prompts, isSent, left_eq⟩ :=
        flight.progress.next_sends gives tells languages settings flight.source before
      rw [isNext] at isSent left_eq
      refine ⟨prompts, isSent, ?_, fun isAlone => ?_⟩
      · simp only [promptsLeft, flights_eq, List.flatMap_append, List.flatMap_cons, left_eq,
          List.append_assoc]
        exact List.perm_append_comm_assoc _ _ _
      · obtain rfl : front = [] := by
          rw [← List.length_eq_zero_iff]
          simp only [flights_eq, List.length_append, List.length_cons] at isAlone
          omega
        simp only [promptsLeft, flights_eq, List.flatMap_cons, left_eq, List.nil_append,
          List.append_assoc]
  | delivered flights_eq =>
      refine ⟨[], (List.append_nil _).symm, .of_eq _ _ _ _ ?_⟩
      rw [promptsLeft, promptsLeft, flights_eq]
      rfl

/-- A window from which all records are delivered sends the prompts that were left: one after the other,
if no two files are in flight together, and in some order otherwise. -/
theorem run_sends (choose : List Event → StateM σ Nat) (silent : ∀ events, Silent sent (choose events))
    (events : Nat) (window : Window Source) (keepsLimit : window.inFlight.length ≤ limit) :
    Sends sent (run languages settings services choose limit events window) fun last prompts =>
      (prompts ++ last.promptsLeft outcomes noted languages settings).Perm
          (window.promptsLeft outcomes noted languages settings) ∧
        (limit ≤ 1 → prompts ++ last.promptsLeft outcomes noted languages settings =
          window.promptsLeft outcomes noted languages settings) := by
  intro start
  let holds (state : σ) (last : Window Source) : Prop :=
    last.inFlight.length ≤ limit ∧ ∃ prompts, sent state = sent start ++ prompts ∧
      (prompts ++ last.promptsLeft outcomes noted languages settings).Perm
          (window.promptsLeft outcomes noted languages settings) ∧
        (limit ≤ 1 → prompts ++ last.promptsLeft outcomes noted languages settings =
          window.promptsLeft outcomes noted languages settings)
  have isHeld : holds start window :=
    ⟨keepsLimit, [], (List.append_nil _).symm, .refl _, fun _ => rfl⟩
  refine (run_holds languages settings services limit choose holds ?_ ?_ events window start isHeld).2
  · rintro events state last ⟨keepsLimit, prompts, isSent, inTheEnd⟩
    obtain ⟨_, noneSent, rfl⟩ := silent events state
    refine ⟨keepsLimit, prompts, ?_, inTheEnd⟩
    rw [noneSent, List.append_nil, isSent]
  · rintro last before event later behind happens ⟨keepsLimit, prompts, isSent, isPerm, inOrder⟩
    obtain ⟨others, othersSent, asked⟩ := happens.asked languages settings gives tells limit
    refine ⟨happens.keepsLimit keepsLimit, prompts ++ others, ?_, ?_, ?_⟩
    · rw [othersSent, isSent, List.append_assoc]
    · rw [List.append_assoc]
      exact (asked.perm.append_left prompts).trans isPerm
    · intro isSmall
      rw [List.append_assoc, asked.inOrder (Nat.le_trans keepsLimit isSmall), inOrder isSmall]

end Window

/-- The prompts that are sent while files are recorded are those about each of the files. -/
theorem recordFiles_sends {services : Services (StateM σ) Source} {outcomes : Outcomes Source}
    {sent : σ → List String} {noted : String → List String} (gives : services.Give outcomes)
    (tells : services.Tell sent noted) (languages : Languages) (settings : RecordSettings)
    (choose : List Window.Event → StateM σ Nat) (silent : ∀ events, Silent sent (choose events))
    (limit : Nat) (files : List (Pending Source)) :
    Sends sent (recordFiles languages settings services choose limit files) fun records prompts =>
      records = files.map (outcomes.record languages settings) ∧
        prompts.Perm (files.flatMap (outcomes.prompts noted languages settings)) ∧
          (limit ≤ 1 → prompts = files.flatMap (outcomes.prompts noted languages settings)) := by
  have start : Window.promptsLeft outcomes noted languages settings { waiting := files } =
      files.flatMap (outcomes.prompts noted languages settings) := rfl
  refine ((Window.run_sends languages settings gives tells (max limit 1) choose silent _ _
    (Nat.zero_le _)).and_yields
      (Window.run_waiting_yields gives languages settings choose limit files)).bind ?_
  rintro last prompts ⟨⟨delivered, isDone⟩, isPerm, inOrder⟩
  have nothingLeft : last.promptsLeft outcomes noted languages settings = [] := by
    rw [Window.promptsLeft, isDone.inFlight_eq, isDone.waiting_eq]
    rfl
  rw [nothingLeft, List.append_nil, start] at isPerm inOrder
  refine .pure ⟨delivered, ?_, fun isSmall => ?_⟩
  · rwa [List.append_nil]
  · rw [List.append_nil]
    exact inOrder (Nat.max_le.2 ⟨isSmall, Nat.le_refl 1⟩)

end RepoSurvey
