import RepoSurvey.Proofs.Survey.Courses
import RepoSurvey.Web.Completion
import RepoSurvey.Web.Host

/-!
# What a survey leaves alone

A survey only looks: what is left as it is by loading files, by asking a service and by waiting is left as
it is by a whole survey, whatever the services answer.
-/

namespace RepoSurvey

open Web (Method)

variable {σ Source ε ε' α β γ : Type} {view : σ → γ}

namespace Leaves

theorem map {action : StateM σ α} (leaves : Leaves view action) (change : α → β) :
    Leaves view (change <$> action) :=
  leaves

theorem adapt {action : ExceptT ε (StateM σ) α} (leaves : Leaves view action.run)
    (change : ε → ε') : Leaves view (ExceptT.adapt change action).run :=
  leaves

theorem lift {action : StateM σ α} (leaves : Leaves view action) :
    Leaves view (ExceptT.lift action : ExceptT ε (StateM σ) α).run :=
  leaves

theorem bindExcept {action : ExceptT ε (StateM σ) α} {next : α → ExceptT ε (StateM σ) β}
    (first : Leaves view action.run) (others : ∀ value, Leaves view (next value).run) :
    Leaves view (action >>= next).run := by
  rw [ExceptT.run_bind]
  refine first.bind fun result => ?_
  cases result with
  | ok value => exact others value
  | error error => exact .pure _

end Leaves

/-! ## Recording -/

/-- Services that leave a part of the outside as it is. -/
structure Services.Leave (services : Services (StateM σ) Source) (view : σ → γ) : Prop where
  load : ∀ source, Leaves view (services.load source)
  awaitWorker : ∀ path, Leaves view (services.awaitWorker path)
  awaitTurn : Leaves view services.awaitTurn
  complete : ∀ prompt, Leaves view (services.complete prompt)

section Recording

variable {services : Services (StateM σ) Source} (leave : services.Leave view)
  (languages : Languages) (settings : RecordSettings)

include leave

theorem Progress.next_leaves (source : Source) (progress : Progress) :
    Leaves view (progress.next languages settings services source) := by
  cases progress with
  | loading path sizeHint => exact (leave.load source).bind fun _ => .pure _
  | parsing path content => exact (leave.awaitWorker path).bind fun _ => .pure _
  | queued record prompt => exact leave.awaitTurn.bind fun _ => .pure _
  | asking record prompt => exact (leave.complete prompt).bind fun _ => .pure _
  | finished record => exact .pure _

theorem Window.Happens.leaves {limit : Nat} {before behind : σ} {event : Window.Event}
    {window later : Window Source}
    (happens : Window.Happens languages settings services limit window before event later behind) :
    view behind = view before := by
  cases happens with
  | nothing isImpossible => rfl
  | takenUp waiting_eq hasRoom => rfl
  | @advanced front back flight progress _ flights_eq isNext =>
      have leaves := Progress.next_leaves leave languages settings flight.source flight.progress before
      rw [isNext] at leaves
      exact leaves
  | delivered flights_eq => rfl

theorem recordFiles_leaves {choose : List Window.Event → StateM σ Nat}
    (chooses : ∀ events, Leaves view (choose events)) (limit : Nat) (files : List (Pending Source)) :
    Leaves view (recordFiles languages settings services choose limit files) := by
  have leaves : Leaves view (Window.run languages settings services choose (max limit 1)
      (eventsPerFile * files.length) { waiting := files }) := fun start =>
    Window.run_holds languages settings services _ choose (fun state _ => view state = view start)
      (fun events state _ same => (chooses events state).trans same)
      (fun happens same => (happens.leaves leave languages settings).trans same) _ _ start rfl
  exact leaves.bind fun _ => .pure _

end Recording

/-! ## Surveys -/

namespace SurveySettings

variable (languages : Languages)

theorem services_leave {load : Source → StateM σ (Except FileError ByteArray)}
    (loads : ∀ source, Leaves view (load source)) {summarizer : Option (Summarizer (StateM σ))}
    (clientLeaves : ∀ client ∈ summarizer, client.Leaves view)
    {conditions : Conditions (StateM σ)} (conditionsLeave : conditions.Leave view) :
    (services load summarizer conditions).Leave view := by
  cases summarizer with
  | none => exact ⟨loads, conditionsLeave.awaitWorker, .pure (), fun _ => .pure _⟩
  | some client =>
      have leaves := clientLeaves client rfl
      exact ⟨loads, conditionsLeave.awaitWorker, leaves.awaitTurn, leaves.complete⟩

theorem calm_leave : (Conditions.calm : Conditions (StateM σ)).Leave view :=
  ⟨fun _ => .pure _, fun _ => .pure _⟩

variable {summarizer : Option (Summarizer (StateM σ))}
  (clientLeaves : ∀ client ∈ summarizer, client.Leaves view) {conditions : Conditions (StateM σ)}
  (conditionsLeave : conditions.Leave view)

include clientLeaves conditionsLeave

theorem surveyDirectory_leaves (settings : SurveySettings) {files : FileOperations (StateM σ)}
    (lists : ∀ path, Leaves view (files.list path).run)
    (reads : ∀ path, Leaves view (files.read path).run) (root : String) :
    Leaves view (settings.surveyDirectory languages files summarizer root conditions).run := by
  have loads (path : String) : Leaves view (loadFrom files path) := by
    refine (reads path).bind fun content => ?_
    cases content <;> exact .pure _
  refine ((lists root).lift).bindExcept fun listing => ?_
  refine Leaves.bindExcept (.pure _) fun found => ?_
  refine Leaves.bindExcept (Leaves.lift ?_) fun records => .pure _
  exact recordFiles_leaves (services_leave loads clientLeaves conditionsLeave) languages _
    conditionsLeave.choose _ _

theorem surveyRepository_leaves (settings : SurveySettings) {host : RepositoryHost (StateM σ)}
    (tells : Leaves view host.metadata) (lists : Leaves view host.listFiles)
    (fetches : ∀ file, Leaves view (host.fetch file)) :
    Leaves view (settings.surveyRepository languages host summarizer conditions) := by
  have loads (file : RemoteFile) : Leaves view (fetchFrom host file) := by
    refine (fetches file).bind fun content => ?_
    cases content <;> exact .pure _
  refine tells.bind fun metadata => lists.bind fun listed => Leaves.bind ?_ fun files => .pure _
  exact recordFiles_leaves (services_leave loads clientLeaves conditionsLeave) languages _
    conditionsLeave.choose _ _

end SurveySettings

/-! ## Services on the web -/

variable {web : Web (StateM σ)} (sends : ∀ request, Leaves view (web.send request))

include sends

theorem ask_leaves (method : Method) (address : String) (headers : List (String × String))
    (body : String) : Leaves view (web.ask method address headers body).run := by
  refine Leaves.bindExcept (.pure _) fun request => ?_
  refine ((sends request).lift).bindExcept fun reply => ?_
  cases reply <;> exact .pure _

namespace HostSettings

variable (settings : HostSettings)

theorem ask_leaves (address form : String) : Leaves view (settings.ask web address form).run := by
  refine ((RepoSurvey.ask_leaves sends _ _ _ _).adapt _).bindExcept fun reply => ?_
  split <;> exact .pure _

theorem askDocument_leaves (address : String) (shape : Web.Shape α) :
    Leaves view (settings.askDocument web address shape).run := by
  refine (ask_leaves sends settings _ _).bindExcept fun content => ?_
  split <;> exact .pure _

theorem repository_leaves (owner name : String) :
    let host := settings.repository web owner name
    Leaves view host.metadata ∧ Leaves view host.listFiles ∧ ∀ file, Leaves view (host.fetch file) := by
  refine ⟨Leaves.bind ?_ fun _ => .pure _, Leaves.bind ?_ fun _ => .pure _,
    fun file => Leaves.bind ?_ fun _ => .pure _⟩
  · exact (askDocument_leaves sends settings _ _).bindExcept fun _ => .pure _
  · exact (askDocument_leaves sends settings _ _).bindExcept fun _ => .pure _
  · exact ask_leaves sends settings _ _

end HostSettings

namespace SummarySettings

theorem summarizer_leaves {settings : SummarySettings} {awaitTurn : StateM σ Unit}
    (waits : Leaves view awaitTurn) {client : Summarizer (StateM σ)}
    (isMade : settings.summarizer web awaitTurn = .ok client) : client.Leaves view := by
  rw [summarizer] at isMade
  split at isMade
  · cases isMade
  · cases isMade
    refine ⟨waits, fun prompt => Leaves.bind ?_ fun _ => .pure _⟩
    refine ((ask_leaves sends _ _ _ _).adapt _).bindExcept fun reply => ?_
    extract_lets readsReply
    have leaves (done : PUnit) : Leaves view (readsReply done).run := by
      dsimp only [readsReply]
      split
      · exact .pure _
      · split <;> exact .pure _
    split
    · exact Leaves.bindExcept (.pure _) leaves
    · exact leaves ()

end SummarySettings

end RepoSurvey
