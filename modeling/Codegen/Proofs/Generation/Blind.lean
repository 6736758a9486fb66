import Codegen.Proofs.Generation.Work

/-! Steps that do the same on other files: whatever they do depends neither on the files, but for those
that they are allowed to read, nor on the journal. -/

namespace Codegen.Generation

open Codegen.Files Codegen.Plugin

/-- The run on other files and with another journal. -/
def Run.on (run : Run) (w : Workspace) (journal : List Event) : Run :=
  { run with journal, desk := { run.desk with workspace := w } }

/-- On any files that look right to `sees`, the step leaves the files alone and comes to the same. -/
def Step.Mirrors {α : Type} (sees : Workspace → Prop) (step : Step α) : Prop :=
  ∀ run w journal, sees run.desk.workspace → sees w →
    (step.run run).2.desk.workspace = run.desk.workspace ∧
    ∃ journal', step.run (run.on w journal) = ((step.run run).1, (step.run run).2.on w journal')

namespace Step.Mirrors

variable {α β : Type} {sees : Workspace → Prop}

theorem mono {sees' : Workspace → Prop} {step : Step α} (h : step.Mirrors sees)
    (hsees : ∀ w, sees' w → sees w) : step.Mirrors sees' :=
  fun run w journal hrun hw => h run w journal (hsees _ hrun) (hsees w hw)

theorem bind_of {step : Step α} {next : α → Step β} {Q : α → Prop} (hstep : step.Mirrors sees)
    (hanswer : ∀ run x after, sees run.desk.workspace → step.run run = (.ok x, after) → Q x)
    (hnext : ∀ x, Q x → (next x).Mirrors sees) : (step >>= next).Mirrors sees := by
  intro run w journal hrun hw
  obtain ⟨hsame, journal', hmirror⟩ := hstep run w journal hrun hw
  rw [Stateful.run_bind, Stateful.run_bind, hmirror]
  rcases hfirst : step.run run with ⟨outcome, middle⟩
  rw [hfirst] at hsame
  cases outcome with
  | error failure => exact ⟨hsame, journal', rfl⟩
  | ok x =>
      have hmiddle : sees middle.desk.workspace := by
        rw [hsame]
        exact hrun
      obtain ⟨hlast, journal'', hrest⟩ := hnext x (hanswer run x middle hrun hfirst) middle w journal'
        hmiddle hw
      exact ⟨hlast.trans hsame, journal'', hrest⟩

theorem bind {step : Step α} {next : α → Step β} (hstep : step.Mirrors sees)
    (hnext : ∀ x, (next x).Mirrors sees) : (step >>= next).Mirrors sees :=
  bind_of (Q := fun _ => True) hstep (fun _ _ _ _ _ => trivial) fun x _ => hnext x

theorem pure (x : α) : (Pure.pure x : Step α).Mirrors sees :=
  fun _ _ journal _ _ => ⟨rfl, journal, rfl⟩

theorem throw (failure : Failure) : (MonadExcept.throw failure : Step α).Mirrors sees :=
  fun _ _ journal _ _ => ⟨rfl, journal, rfl⟩

theorem lift (outcome : Except Failure α) : (Step.lift outcome).Mirrors sees := by
  intro run w journal _ _
  rw [run_lift, run_lift]
  exact ⟨rfl, journal, rfl⟩

theorem get_bind {next : Run → Step β} (hsame : ∀ run w journal, next (run.on w journal) = next run)
    (hnext : ∀ run, (next run).Mirrors sees) : (get >>= next).Mirrors sees := by
  intro run w journal hrun hw
  rw [Stateful.run_bind_ok (Stateful.run_get _), Stateful.run_bind_ok (Stateful.run_get _), hsame]
  exact hnext run run w journal hrun hw

theorem workspace_bind {next : Workspace → Step β}
    (hsame : ∀ w w', sees w → sees w' → next w' = next w)
    (hnext : ∀ w, sees w → (next w).Mirrors sees) : (workspace >>= next).Mirrors sees := by
  intro run w journal hrun hw
  rw [Stateful.run_bind_ok (run_workspace _), Stateful.run_bind_ok (run_workspace _)]
  have hread : next (run.on w journal).desk.workspace = next run.desk.workspace := hsame _ _ hrun hw
  rw [hread]
  exact hnext _ hrun run w journal hrun hw

theorem modifying {change : Run → Run}
    (hsame : ∀ run w journal, change (run.on w journal) = (change run).on w journal)
    (hworkspace : ∀ run, (change run).desk.workspace = run.desk.workspace) :
    (modify change : Step Unit).Mirrors sees := by
  intro run w journal _ _
  rw [Stateful.run_modify, Stateful.run_modify, hsame]
  exact ⟨hworkspace run, journal, rfl⟩

theorem record (event : Event) : (Generation.record event).Mirrors sees :=
  fun _ _ journal _ _ => ⟨rfl, journal ++ [event], rfl⟩

theorem enter (stage : Stage) : (Generation.enter stage).Mirrors sees :=
  fun _ _ journal _ _ => ⟨rfl, journal, rfl⟩

theorem context : Generation.context.Mirrors sees := fun _ _ journal _ _ => ⟨rfl, journal, rfl⟩

theorem setContext (context : Context) : (Generation.setContext context).Mirrors sees :=
  fun _ _ journal _ _ => ⟨rfl, journal, rfl⟩

theorem putContext (name : String) (v : Value) : (Generation.putContext name v).Mirrors sees :=
  bind context fun _ => setContext _

theorem say (logger : Log.Component) (method : Log.Method) (message : String) :
    (Generation.say logger method message).Mirrors sees :=
  get_bind (fun _ _ _ => rfl) fun _ => lift _

theorem outcome {step : Step α} (h : step.Mirrors sees) : step.outcome.Mirrors sees := by
  intro run w journal hrun hw
  obtain ⟨hsame, journal', hmirror⟩ := h run w journal hrun hw
  rw [run_outcome, run_outcome, hmirror]
  exact ⟨hsame, journal', rfl⟩

theorem shared {act : Step Unit} (h : act.Mirrors sees) : act.shared.Mirrors sees := by
  intro run w journal hrun hw
  obtain ⟨_, journal', hmirror⟩ := h run w journal hrun hw
  -- Whatever the deed does to the files and the journal is dropped.
  refine ⟨rfl, journal, ?_⟩
  have hfirst : (act.shared.run (run.on w journal)) = (.ok (act.run (run.on w journal)).1,
      { run.on w journal with
        registry := (act.run (run.on w journal)).2.registry
        desk := { (run.on w journal).desk with context := (act.run (run.on w journal)).2.desk.context } }) :=
    rfl
  rw [hfirst, hmirror]
  rfl

theorem ofRegistry (change : Mixin.Registry → Mixin.Registry × Except Failure α) :
    (Step.ofRegistry change).Mirrors sees := by
  intro run w journal _ _
  have hchange : ∀ run : Run, (Step.ofRegistry change).run run =
      ((change run.registry).2, { run with registry := (change run.registry).1 }) := by
    intro run
    rw [Step.ofRegistry, Stateful.run_bind_ok (Stateful.run_get run)]
    rcases change run.registry with ⟨registry, outcome⟩
    dsimp only
    rw [Stateful.run_bind_ok (Stateful.run_set _ _), run_lift]
  rw [hchange, hchange]
  exact ⟨rfl, journal, rfl⟩

theorem forM {step : α → Step Unit} (xs : List α) (hstep : ∀ x ∈ xs, (step x).Mirrors sees) :
    (xs.forM step).Mirrors sees := by
  induction xs with
  | nil => exact pure ()
  | cons x rest ih =>
      exact bind (hstep x List.mem_cons_self) fun _ =>
        ih fun y hy => hstep y (List.mem_cons_of_mem x hy)

theorem mapM {step : α → Step β} (xs : List α) (hstep : ∀ x ∈ xs, (step x).Mirrors sees) :
    (xs.mapM step).Mirrors sees := by
  induction xs with
  | nil => exact pure []
  | cons x rest ih =>
      rw [List.mapM_cons]
      exact bind (hstep x List.mem_cons_self) fun y =>
        bind (ih fun z hz => hstep z (List.mem_cons_of_mem x hz)) fun _ => pure _

end Step.Mirrors

/-! Hooks. -/

/-- What the course does depends neither on the files nor on the journal. -/
def Course.Blind : Course → Prop
  | .finish _ => True
  | .deed act next => act.shared.Mirrors (fun _ => True) ∧ ∀ outcome run,
      (∀ w journal, next outcome (run.on w journal) = next outcome run) ∧ (next outcome run).Blind
  | .ask _ _ next => ∀ answer, (next answer).Blind

/-- No hook looks at the files or at the journal. -/
def Conduct.Blind (conduct : Conduct) : Prop :=
  ∀ number plugin hook course, conduct.course? number plugin hook = some course →
    ∀ args, (course args).Blind

section

variable {sees : Workspace → Prop}

theorem Course.Blind.follow {again : Request → Value → Step Bool}
    (hagain : ∀ request value, (again request value).Mirrors sees) {course : Course}
    (h : course.Blind) : (course.follow again).Mirrors sees := by
  induction course with
  | finish outcome => exact .lift outcome
  | deed act next ih =>
      obtain ⟨hact, hnext⟩ := h
      refine .bind (hact.mono fun _ _ => trivial) fun outcome => ?_
      refine .get_bind (fun run w journal => ?_) fun run => ih outcome run (hnext outcome run).2
      rw [(hnext outcome run).1]
  | ask request value next ih =>
      exact .bind (hagain request value).outcome fun answer => ih answer (h answer)

theorem scriptAt_mirrors (number : Nat) : (scriptAt number).Mirrors sees := by
  refine .get_bind (fun _ _ _ => rfl) fun run => ?_
  split
  · exact .pure _
  · exact .throw _

theorem recordMissing_mirrors (script : Script) (hook : String) :
    (recordMissing script hook).Mirrors sees := by
  refine .get_bind (fun _ _ _ => rfl) fun run => ?_
  dsimp only
  split
  · exact .pure _
  · refine .bind (.modifying (fun _ _ _ => rfl) fun _ => rfl) fun _ => ?_
    exact .bind (.say _ _ _) fun _ => .modifying (fun _ _ _ => rfl) fun _ => rfl

variable {conduct : Conduct} (hconduct : conduct.Blind)
include hconduct

theorem answerWith_mirrors {begin_ : Course → Step Unit}
    (hbegin : ∀ course : Course, course.Blind → (begin_ course).Mirrors sees) (request : Request)
    (value : Value) : (answerWith conduct begin_ request value).Mirrors sees := by
  refine .bind (scriptAt_mirrors _) fun script => ?_
  split
  · exact .bind (.record _) fun _ => .pure _
  · refine .bind (.modifying (fun _ _ _ => rfl) fun _ => rfl) fun _ => ?_
    split
    · exact .bind (.record _) fun _ => .bind (recordMissing_mirrors _ _) fun _ => .pure _
    · rename_i course hcourse
      refine .bind (.say _ _ _) fun _ => .bind ?_ fun _ => .pure _
      exact hbegin _ (hconduct _ _ _ course hcourse _)

theorem beginHook_mirrors (depth : Nat) (request : Request) (value : Value) (course : Course)
    (h : course.Blind) : (beginHook conduct depth request value course).Mirrors sees := by
  induction depth generalizing request value course with
  | zero => exact .bind (.record _) fun _ => .throw _
  | succ depth ih =>
      refine .bind (.record _) fun _ => h.follow fun request value => ?_
      exact answerWith_mirrors hconduct (ih request value) request value

theorem answer_mirrors (depth : Nat) (request : Request) (value : Value) :
    (answer conduct depth request value).Mirrors sees :=
  answerWith_mirrors hconduct (beginHook_mirrors hconduct depth request value) request value

theorem runOnce_mirrors (number : Nat) (kind name : String) (value : Value) :
    (runOnce number kind name value conduct).Mirrors sees :=
  .bind (.record _) fun _ =>
    .get_bind (fun _ _ _ => rfl) fun _ => answer_mirrors hconduct _ _ value

theorem runScripts_mirrors (scripts : List Nat) (m : Model) (i j : Nat) :
    (runScripts conduct scripts m i j).Mirrors sees :=
  .forM scripts fun number _ => .bind (runOnce_mirrors hconduct number _ _ _) fun _ =>
    .bind (runOnce_mirrors hconduct number _ _ _) fun _ => .pure ()

theorem callScript_mirrors (number : Nat) (hook : String) (args : List Value) :
    (callScript number hook args conduct).Mirrors sees := by
  refine .bind (scriptAt_mirrors number) fun script => ?_
  split
  · exact .pure _
  · rename_i course hcourse
    refine .bind (.record _) fun _ => .get_bind (fun _ _ _ => rfl) fun run => ?_
    refine .bind ?_ fun _ => .pure _
    exact (hconduct _ _ _ course hcourse args).follow fun request value =>
      answer_mirrors hconduct _ request value

theorem runLifecycles_mirrors (numbers : List Nat) (hook : String) :
    Step.Mirrors sees (numbers.forM fun number => do
      let _ ← runLifecycle number hook conduct) := by
  refine .forM numbers fun number _ => .bind ?_ fun _ => .pure ()
  refine .bind (scriptAt_mirrors number) fun script => ?_
  split
  · exact .bind (recordMissing_mirrors script hook) fun _ => .pure _
  · exact .bind (.say _ _ _) fun _ => callScript_mirrors hconduct number hook []

end

/-! The hooks of plugins. -/

section

variable {sees : Workspace → Prop}

theorem displayed_mirrors (v : Value) : (displayed v).Mirrors sees :=
  .get_bind (fun _ _ _ => rfl) fun _ => .pure _

theorem readMember_mirrors (v : Value) (name : String) : (readMember v name).Mirrors sees :=
  .get_bind (fun _ _ _ => rfl) fun _ => .lift _

theorem required_mirrors (name : String) : (required name).Mirrors sees := by
  refine .bind .context fun context => ?_
  split
  · exact .pure _
  · exact .throw _

theorem identity_mirrors (v : Value) : (identity v).Mirrors sees := by
  rw [identity.eq_def]
  split
  · exact .pure _
  · refine .get_bind (fun _ _ _ => rfl) fun run => ?_
    split
    · split
      · exact displayed_mirrors _
      · exact displayed_mirrors _
    · split
      · exact displayed_mirrors _
      · exact .throw _

theorem pushItem_mirrors (key : String) (item : Value) : (pushItem key item).Mirrors sees := by
  refine .bind .context fun context => ?_
  split
  · exact .setContext _
  · exact .get_bind (fun _ _ _ => rfl) fun _ => .throw _

theorem mixIn_mirrors (document : Mixin.Document) : (mixIn document).Mirrors sees := by
  refine .bind (required_mirrors _) fun v => ?_
  split
  · exact .get_bind (fun _ _ _ => rfl) fun _ => .bind (.ofRegistry _) fun _ => .pure _
  · exact .get_bind (fun _ _ _ => rfl) fun _ => .throw _

theorem perform_mirrors {again : Nat → String → String → Step Bool}
    (hagain : ∀ script kind identity, (again script kind identity).Mirrors sees) (value : Value)
    (action : Action) : (perform again value action).Mirrors sees := by
  cases action with
  | append key text => exact .bind (identity_mirrors value) fun _ => pushItem_mirrors _ _
  | appendValue key => exact pushItem_mirrors _ _
  | set key v => exact .putContext _ _
  | setValue key => exact .putContext _ _
  | delete key => exact .bind .context fun _ => .setContext _
  | ensureList key =>
      refine .bind .context fun context => ?_
      split
      · exact .setContext _
      · exact .pure _
  | extendList key => exact .bind (required_mirrors _) fun _ => pushItem_mirrors _ _
  | collectNames source target =>
      refine .bind .context fun context => .get_bind (fun _ _ _ => rfl) fun run => ?_
      refine .bind (.lift _) fun items => ?_
      exact .bind (.mapM items fun item _ => readMember_mirrors item _) fun _ => .putContext _ _
  | mixin document => exact mixIn_mirrors document
  | installSupport mark => exact .bind (required_mirrors _) fun _ => .ofRegistry _
  | installPlatform => exact .bind (required_mirrors _) fun _ => .ofRegistry _
  | raise fault => exact .throw _
  | runOnce script kind identity =>
      exact .bind (hagain script kind identity) fun _ => pushItem_mirrors _ _

end

theorem Course.blind_unlessFailed {act : Step Unit} (hact : act.shared.Mirrors fun _ => True)
    {next : Course} (hnext : next.Blind) : (Course.deed act (unlessFailed next)).Blind := by
  refine ⟨hact, fun outcome run => ?_⟩
  cases outcome with
  | ok u => exact ⟨fun _ _ => rfl, hnext⟩
  | error failure => exact ⟨fun _ _ => rfl, trivial⟩

theorem Course.blind_ofActions (value : Value) (actions : List Action) :
    (Course.ofActions value actions).Blind := by
  induction actions with
  | nil => trivial
  | cons action rest ih =>
      have hact : ∀ outcome : Except Failure Bool,
          (perform (fun _ _ _ => Step.lift outcome) value action).shared.Mirrors fun _ => True :=
        fun outcome => .shared (perform_mirrors (fun _ _ _ => .lift outcome) value action)
      cases action with
      | runOnce script kind identity =>
          exact fun answer => Course.blind_unlessFailed (hact answer) ih
      | _ => exact Course.blind_unlessFailed (hact (.ok false)) ih

theorem Conduct.ofPlugins_blind : Conduct.ofPlugins.Blind := by
  intro number plugin hook course hcourse args
  obtain ⟨callee, -, rfl⟩ := Option.map_eq_some_iff.mp hcourse
  cases callee with
  | function f =>
      refine ⟨.shared ?_, fun outcome run => ⟨fun _ _ => rfl, trivial⟩⟩
      exact .get_bind (fun _ _ _ => rfl) fun run => .bind (.lift _) fun _ => .pure _
  | hook actions =>
      show (calleeCourse args (.hook actions)).Blind
      rw [calleeCourse.eq_def]
      dsimp only
      split
      · trivial
      · exact Course.blind_ofActions _ actions

end Codegen.Generation
