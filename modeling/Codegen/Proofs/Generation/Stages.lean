import Codegen.Generation.Execution
import Codegen.Proofs.Generation.Shipping

/-! The stages that a run goes through: all of them in their order when it succeeds, and otherwise the
first of them, up to the one in which it failed. -/

namespace Codegen

/-- Neither an interrupt of the whole program nor a failure of the log. -/
def Failure.isOrdinary : Failure → Bool
  | markup _ => false
  | failure => !failure.isInterrupt

end Codegen

namespace Codegen.Generation

open Codegen.Files Codegen.Model

/-- The stages of a run that succeeds. -/
def Stage.course : List Stage :=
  [.start, .validateModel, .loadGlobals, .loadPlatform, .walkModel, .projectScripts, .projectTemplates,
    .flushAggregates, .done]

/-! Steps that enter no stage. -/

def SameStages (run after : Run) : Prop := after.stages = run.stages

namespace SameStages

instance : IsPreorder Run SameStages where
  refl _ := rfl
  trans _ _ _ hfirst hsecond := hsecond.trans hfirst

theorem keptByHooks (conduct : Conduct) : KeptByHooks conduct SameStages where
  share _ _ _ := rfl
  request _ := {
    done _ _ _ := rfl
    mark _ _ _ _ := rfl
    missing _ _ _ _ _ _ _ _ := rfl
    begun _ _ _ _ _ _ _ _ _ := rfl }
  due _ _ _ := rfl
  called _ _ _ := rfl
  report _ _ _ := rfl

theorem keptByLoading : KeptByLoading SameStages where
  engine _ _ := rfl
  script _ _ _ _ := rfl

theorem setContext (context : Context) : (Generation.setContext context).Keeps SameStages :=
  fun _ => rfl

theorem ofRouting {α : Type} (routing : Output.Routing α) :
    (Step.ofRouting routing).Keeps SameStages := by
  intro run
  rw [Step.run_ofRouting]
  rfl

end SameStages

theorem renderTemplate_sameStages (extension : String) (classifier : Value) (template : Path) :
    (renderTemplate extension classifier template).Keeps SameStages := by
  have hcompose : (compose extension classifier template).Keeps SameStages := by
    intro run
    obtain ⟨context, hrun, _⟩ := compose_keeps extension classifier template run
    rw [hrun]
    rfl
  refine .bind hcompose fun (parcel, isExplicit) => .bind (fun _ => rfl) fun _ => .bind .get fun run => ?_
  exact .bind (.ofRouting _) fun written => .bind (fun _ => rfl) fun _ => .pure _

theorem renderAll_sameStages (extension : String) (classifier : Value) (templates : List Path) :
    (renderAll extension classifier templates).Keeps SameStages :=
  .mapM templates fun template _ => renderTemplate_sameStages extension classifier template

theorem processClass_sameStages (conduct : Conduct) (sources : Sources) (projectScripts : List Nat)
    (m : Model) (i j : Nat) : (processClass conduct sources projectScripts m i j).Keeps SameStages := by
  have hscripts := runScripts_keeps (SameStages.keptByHooks conduct)
  refine .bind (.say _ _ _) fun _ => .bind context_keeps fun context => .bind (.setContext _) fun _ => ?_
  refine .bind (hscripts _ m i j) fun _ => ?_
  refine .bind (loadScripts_keeps SameStages.keptByLoading _ _ _ _) fun scripts => ?_
  refine .bind (hscripts _ m i j) fun _ => .bind (find_keeps _ _ _ _) fun templates => ?_
  exact renderAll_sameStages _ _ templates

/-! Steps that go through stages in an order. -/

def Step.Passes {α : Type} (certain others : List Stage) (step : Step α) : Prop :=
  ∀ run, ∃ entered, (step.run run).2.stages = run.stages ++ certain ++ entered ∧
    entered <+: others ∧ ((step.run run).1.isOk = true → entered = others)

namespace Step.Passes

variable {α β : Type} {certain others others' : List Stage}

theorem of_keeps {step : Step α} (h : step.Keeps SameStages) : step.Passes [] [] := by
  intro run
  refine ⟨[], ?_, List.prefix_rfl, fun _ => rfl⟩
  rw [List.append_nil, List.append_nil]
  exact h run

theorem enter (stage : Stage) : (Generation.enter stage).Passes [stage] [] := by
  intro run
  refine ⟨[], ?_, List.prefix_rfl, fun _ => rfl⟩
  rw [run_enter, List.append_nil]

theorem bind {step : Step α} {next : α → Step β} (hstep : step.Passes certain others)
    (hnext : ∀ x, (next x).Passes [] others') : (step >>= next).Passes certain (others ++ others') := by
  intro run
  obtain ⟨entered, hstages, hprefix, hok⟩ := hstep run
  rw [Stateful.run_bind]
  rcases h : step.run run with ⟨outcome, middle⟩
  rw [h] at hstages hok
  cases outcome with
  | error failure =>
      exact ⟨entered, hstages, hprefix.trans (List.prefix_append _ _), fun hfailed => by cases hfailed⟩
  | ok x =>
      obtain ⟨entered', hstages', hprefix', hok'⟩ := hnext x middle
      obtain rfl := hok rfl
      refine ⟨entered ++ entered', ?_, ?_, fun h => by rw [hok' h]⟩
      · dsimp only at hstages ⊢
        rw [hstages', hstages, List.append_nil, List.append_assoc]
      · exact (List.prefix_append_right_inj entered).mpr hprefix'

theorem later {stage : Stage} {step : Step α} (h : step.Passes [stage] others) :
    step.Passes [] (stage :: others) := by
  intro run
  obtain ⟨entered, hstages, hprefix, hok⟩ := h run
  refine ⟨stage :: entered, ?_, List.cons_prefix_cons.mpr ⟨rfl, hprefix⟩, fun h => by rw [hok h]⟩
  rw [hstages, List.append_nil, List.append_assoc]
  rfl

theorem keeps_bind {step : Step α} {next : α → Step β} (hstep : step.Keeps SameStages)
    (hnext : ∀ x, (next x).Passes [] others) : (step >>= next).Passes [] others :=
  bind (of_keeps hstep) hnext

theorem enter_bind {stage : Stage} {next : Unit → Step β} (hnext : ∀ x, (next x).Passes [] others) :
    (Generation.enter stage >>= next).Passes [stage] others :=
  bind (enter stage) hnext

end Step.Passes

/-! The crew of a run. -/

/-- None of the crew enters a stage. -/
structure Crew.LeavesStages (crew : Crew) : Prop where
  loadGlobals : crew.loadGlobals.Keeps SameStages
  loadPlatform : crew.loadPlatform.Keeps SameStages
  processClass : ∀ projectScripts m i j, (crew.processClass projectScripts m i j).Keeps SameStages
  callProject : ∀ projectScripts, (crew.callProject projectScripts).Keeps SameStages
  renderProject : crew.renderProject.Keeps SameStages

theorem Crew.ofPlugins_leavesStages (sources : Sources) (conduct : Conduct) :
    (Crew.ofPlugins sources conduct).LeavesStages where
  loadGlobals := loadGlobals_keeps sources SameStages.keptByLoading.engine
  loadPlatform :=
    loadPlatform_keeps sources (SameStages.keptByHooks conduct) SameStages.keptByLoading
  processClass projectScripts m i j := processClass_sameStages conduct sources projectScripts m i j
  callProject projectScripts :=
    runLifecycles_keeps (SameStages.keptByHooks conduct) projectScripts _
  renderProject := .bind (find_keeps _ _ _ _) fun _ => renderAll_sameStages _ _ _

variable {crew : Crew} (options : Settings.Options) {load : Step Model} (closing : Output.Closing)

theorem Crew.runStages_passes (hcrew : crew.LeavesStages) (hload : load.Keeps SameStages) :
    (crew.runStages options load).Passes [.validateModel]
      [.loadGlobals, .loadPlatform, .walkModel, .projectScripts, .projectTemplates] := by
  refine .enter_bind fun _ => .keeps_bind hload fun m => .keeps_bind .get fun run => ?_
  refine .keeps_bind (.lift _) fun _ => .keeps_bind (fun _ => rfl) fun _ => ?_
  refine .keeps_bind (.setContext _) fun _ => .later (.enter_bind fun _ => ?_)
  refine .keeps_bind hcrew.loadGlobals fun _ => .later (.enter_bind fun _ => ?_)
  refine .keeps_bind hcrew.loadPlatform fun projectScripts => .later (.enter_bind fun _ => ?_)
  refine .keeps_bind (.mapM _ fun (i, j) _ => hcrew.processClass _ m i j) fun forClasses => ?_
  refine .later (.enter_bind fun _ => .keeps_bind context_keeps fun context => ?_)
  refine .keeps_bind (.setContext _) fun _ => .keeps_bind (hcrew.callProject _) fun _ => ?_
  refine .later (.enter_bind fun _ => .keeps_bind hcrew.renderProject fun forProject => ?_)
  exact .of_keeps (.pure _)

theorem Crew.runToEnd_passes (hcrew : crew.LeavesStages) (hload : load.Keeps SameStages) :
    (crew.runToEnd closing options load).Passes [.validateModel]
      [.loadGlobals, .loadPlatform, .walkModel, .projectScripts, .projectTemplates,
        .flushAggregates] := by
  refine .bind (crew.runStages_passes options hcrew hload) fun templates => ?_
  refine .later (.enter_bind fun _ => .keeps_bind (.ofRouting _) fun _ => ?_)
  exact .of_keeps (.pure _)

/-! Closing the collecting files. -/

theorem closeAfter_sameStages {α : Type} (failure : Failure) :
    (closeAfter closing failure : Step α).Keeps SameStages :=
  .bind (.ofRouting _) fun _ => .throw failure

/-- The failure that is left of one after which the collecting files are closed: a refused closing takes
its place. -/
def closingFailure (failure : Failure) (run : Run) : Failure :=
  match ((Output.closeAllBy closing).run run.desk).1 with
  | .ok _ => failure
  | .error refused => refused

theorem closeAfter_run {α : Type} (failure : Failure) (run : Run) :
    ((closeAfter closing failure : Step α).run run).1 =
      .error (closingFailure closing failure run) := by
  rw [closeAfter, Stateful.run_bind, Step.run_ofRouting, closingFailure]
  rcases (Output.closeAllBy closing).run run.desk with ⟨outcome, desk⟩
  cases outcome <;> rfl

theorem Crew.attempt_run (crew : Crew) (load : Step Model) (run : Run) :
    (crew.attempt closing options load).run run =
      match (crew.runToEnd closing options load).run run with
      | (.ok templates, after) => (.ok templates, after)
      | (.error failure, after) => (closeAfter closing failure).run after := by
  rw [attempt, Stateful.run_tryCatch]
  rcases (crew.runToEnd closing options load).run run with ⟨outcome, after⟩
  cases outcome <;> rfl

theorem Crew.attempt_passes (hcrew : crew.LeavesStages) (hload : load.Keeps SameStages) :
    (crew.attempt closing options load).Passes [.validateModel]
      [.loadGlobals, .loadPlatform, .walkModel, .projectScripts, .projectTemplates,
        .flushAggregates] := by
  intro run
  obtain ⟨entered, hstages, hprefix, hok⟩ := crew.runToEnd_passes options closing hcrew hload run
  rw [attempt_run]
  rcases hrun : (crew.runToEnd closing options load).run run with ⟨outcome, after⟩
  rw [hrun] at hstages hok
  cases outcome with
  | ok templates => exact ⟨entered, hstages, hprefix, hok⟩
  | error failure =>
      have hsame := closeAfter_sameStages (α := List Rendered) closing failure after
      refine ⟨entered, hsame.trans hstages, hprefix, fun hsucceeded => ?_⟩
      dsimp only at hsucceeded
      rw [closeAfter_run closing failure after] at hsucceeded
      cases hsucceeded

/-! The end of a run. -/

theorem Pipeline.go_run (pipeline : Pipeline) (crew : Crew) (load : Step Model) (start : Run) :
    (pipeline.go crew closing load).run start =
      match (crew.attempt closing pipeline.options load).run
          { start with stages := start.stages ++ [.start] } with
      | (.ok templates, after) => (conclude pipeline.sources templates).run after
      | (.error failure, after) => (do noteFailure failure; throw failure : Step Report).run after := by
  rw [go, Stateful.run_bind_ok (run_enter .start start), Stateful.run_bind, Stateful.run_tryCatch]
  rcases (crew.attempt closing pipeline.options load).run _ with ⟨outcome, after⟩
  cases outcome with
  | ok templates => rfl
  | error failure =>
      dsimp only
      rw [Stateful.run_bind, Stateful.run_bind]
      rcases (noteFailure failure).run after with ⟨outcome, noted⟩
      cases outcome <;> rfl

theorem conclude_run (sources : Sources) (templates : List Rendered) (run : Run) :
    ∃ outcome, (conclude sources templates).run run =
        (outcome, { run with stages := run.stages ++ [.done] }) ∧
      (∀ report, outcome = .ok report → report.state = .done) ∧
      ∀ failure, outcome = .error failure → failure.isOrdinary = false := by
  simp only [conclude, Stateful.run_bind, run_enter, Stateful.run_get]
  split
  · simp only [Stateful.run_bind, run_say]
    cases hsay : Log.pipelineLogger.say run.desk.levels .warning _ with
    | error failure =>
        refine ⟨.error failure, rfl, ?_, ?_⟩
        · rintro _ ⟨⟩
        · rintro _ ⟨⟩
          obtain ⟨fault, rfl⟩ := Log.say_error hsay
          rfl
    | ok u =>
        refine ⟨.ok _, rfl, ?_, ?_⟩
        · rintro _ ⟨⟩
          rfl
        · rintro _ ⟨⟩
  · refine ⟨.ok _, rfl, ?_, ?_⟩
    · rintro _ ⟨⟩
      rfl
    · rintro _ ⟨⟩

theorem noteFailure_run {α : Type} {failure : Failure} {run : Run}
    (hordinary : ∀ failure',
      ((do noteFailure failure; throw failure : Step α).run run).1 = .error failure' →
        failure'.isOrdinary = true) :
    (do noteFailure failure; throw failure : Step α).run run =
      (.error failure, { run with stages := run.stages ++ [.failed] }) := by
  by_cases hinterrupt : failure.isInterrupt = true
  · have hfailed := hordinary failure (by simp [noteFailure, hinterrupt])
    rw [Failure.isOrdinary.eq_def] at hfailed
    split at hfailed
    · cases hfailed
    · rw [hinterrupt] at hfailed
      cases hfailed
  · simp only [noteFailure, hinterrupt, Stateful.run_bind, Stateful.run_get, run_enter, run_say,
      Bool.false_eq_true, if_false] at hordinary ⊢
    cases hsay : Log.pipelineLogger.say run.desk.levels .error
        s!"Generation failed in state {(run.stages.getLastD .start).name}: {failure.text}" with
    | ok u => rfl
    | error refused =>
        rw [hsay] at hordinary
        obtain ⟨fault, rfl⟩ := Log.say_error hsay
        cases hordinary _ rfl

/-! The crew that works with plugins, and closings that are not refused. -/

theorem Crew.runStages_ofPlugins (sources : Sources) (conduct : Conduct) (options : Settings.Options)
    (load : Step Model) :
    (Crew.ofPlugins sources conduct).runStages options load =
      Generation.runStages conduct sources options load := by
  simp only [Crew.runStages, Generation.runStages, prepare, processProject, Crew.ofPlugins, bind_assoc,
    pure_bind]

theorem Crew.runToEnd_ofPlugins (sources : Sources) (conduct : Conduct) (options : Settings.Options)
    (load : Step Model) :
    (Crew.ofPlugins sources conduct).runToEnd .whole options load =
      Generation.runToEnd conduct sources options load := by
  rw [Crew.runToEnd, Generation.runToEnd, Crew.runStages_ofPlugins, Output.closeAllBy_whole]

theorem abandon_eq {α : Type} (failure : Failure) :
    (abandon failure : Step α) = (do
      let _ ← Step.ofRouting Output.closeAll
      noteFailure failure
      throw failure) := by
  rw [abandon, noteFailure]
  by_cases hinterrupt : failure.isInterrupt = true
  · simp only [hinterrupt, if_true, pure_bind]
  · simp only [hinterrupt, Bool.false_eq_true, if_false, bind_assoc]

theorem Pipeline.go_ofPlugins (pipeline : Pipeline) (conduct : Conduct) (load : Step Model)
    (start : Run) :
    (pipeline.go (.ofPlugins pipeline.sources conduct) .whole load).run start =
      (runPipeline pipeline.sources pipeline.options load conduct).run start := by
  rw [go_run, Crew.attempt_run, Crew.runToEnd_ofPlugins, runPipeline,
    Stateful.run_bind_ok (run_enter .start start), Stateful.run_bind, Stateful.run_tryCatch]
  rcases (runToEnd conduct pipeline.sources pipeline.options load).run _ with ⟨outcome, after⟩
  cases outcome with
  | ok templates => rfl
  | error failure =>
      dsimp only
      rw [closeAfter, Output.closeAllBy_whole, Stateful.run_bind_ok (run_ofRouting_closeAll after),
        Stateful.run_throw, abandon_eq, Stateful.run_bind_ok (run_ofRouting_closeAll after)]
      dsimp only
      rw [Stateful.run_bind, Stateful.run_bind]
      rcases (noteFailure failure).run after.closed with ⟨outcome, noted⟩
      cases outcome <;> rfl

/-! Models that are refused. -/

theorem Loader.run_load (loader : Loader) (run : Run) :
    loader.load.run run = (loader run.desk.workspace run.desk.levels, run) := by
  rw [load, Stateful.run_bind_ok (Stateful.run_get run), Step.run_lift]

theorem Crew.runStages_refused (crew : Crew) {loader : Loader} {run : Run} {failure : Failure}
    (hcheck : loader.check run.desk.workspace run.desk.levels = .error failure) :
    (crew.runStages options loader.load).run run =
      (.error failure, { run with stages := run.stages ++ [.validateModel] }) := by
  rw [runStages, Stateful.run_bind_ok (run_enter _ _), Stateful.run_bind, Loader.run_load]
  rw [Loader.check] at hcheck
  cases hread : loader run.desk.workspace run.desk.levels with
  | error unread =>
      rw [hread] at hcheck
      cases hcheck
      rfl
  | ok m =>
      have hinvalid : m.validate run.desk.levels = .error failure := by
        rw [hread] at hcheck
        simp only [bind, Except.bind] at hcheck
        split at hcheck
        · rename_i invalid hinvalid
          cases hcheck
          exact hinvalid
        · cases hcheck
      dsimp only
      rw [Stateful.run_bind_ok (Stateful.run_get _)]
      exact Stateful.run_bind_error ((Step.run_lift _ _).trans (by rw [hinvalid])) _

theorem Crew.attempt_refused (crew : Crew) {loader : Loader} {run : Run} {failure : Failure}
    (hfresh : run.desk.aggregates = [])
    (hcheck : loader.check run.desk.workspace run.desk.levels = .error failure) :
    (crew.attempt closing options loader.load).run run =
      (.error failure, { run with stages := run.stages ++ [.validateModel] }) := by
  have hclose : ∀ desk : Output.Desk, desk.aggregates = [] →
      (Output.closeAllBy closing).run desk = (.ok 0, desk) := by
    intro desk hdesk
    rw [Output.closeAllBy, Stateful.run_bind_ok (Stateful.run_get desk), hdesk]
    rfl
  rw [attempt_run, runToEnd, Stateful.run_bind_error (crew.runStages_refused options hcheck)]
  dsimp only
  rw [closeAfter, Stateful.run_bind, Step.run_ofRouting, hclose _ hfresh]
  rfl

/-! What a pipeline goes through. -/

namespace Pipeline

section

variable {pipeline : Pipeline} {loader : Loader} {w : Workspace} {registry : Mixin.Registry}
  {levels : Log.Levels} {closing : Output.Closing} {after : Run}
  (hordinary : ∀ failure,
    (pipeline.execute loader w registry levels crew closing).outcome = .error failure →
      failure.isOrdinary = true)
include hordinary

theorem execute_of_passed {templates : List Rendered}
    (hattempt : (crew.attempt closing pipeline.options loader.load).run
      { Run.start w registry levels with stages := [.start] } = (.ok templates, after)) :
    let execution := pipeline.execute loader w registry levels crew closing
    (∃ report, execution.outcome = .ok report ∧ report.state = .done) ∧
      execution.run = { after with stages := after.stages ++ [.done] } := by
  obtain ⟨outcome, hconclude, hdone, hfailed⟩ := conclude_run pipeline.sources templates after
  have hgo := go_run closing pipeline crew loader.load (Run.start w registry levels)
  rw [show (Run.start w registry levels).stages ++ [.start] = [Stage.start] from rfl, hattempt] at hgo
  simp only [execute, hgo, hconclude] at hordinary ⊢
  cases outcome with
  | ok report => exact ⟨⟨report, rfl, hdone report rfl⟩, trivial⟩
  | error failure =>
      have hlogged := hfailed failure rfl
      rw [hordinary failure rfl] at hlogged
      cases hlogged

theorem execute_of_failed {failure : Failure}
    (hattempt : (crew.attempt closing pipeline.options loader.load).run
      { Run.start w registry levels with stages := [.start] } = (.error failure, after)) :
    let execution := pipeline.execute loader w registry levels crew closing
    execution.outcome = .error failure ∧
      execution.run = { after with stages := after.stages ++ [.failed] } := by
  have hgo := go_run closing pipeline crew loader.load (Run.start w registry levels)
  rw [show (Run.start w registry levels).stages ++ [.start] = [Stage.start] from rfl, hattempt] at hgo
  simp only [execute, hgo] at hordinary ⊢
  simp only [noteFailure_run hordinary, and_self]

end

theorem failed_stages {entered : List Stage}
    (hentered : entered <+: [.loadGlobals, .loadPlatform, .walkModel, .projectScripts,
      .projectTemplates, .flushAggregates]) :
    ∃ n, 2 ≤ n ∧ n < Stage.course.length ∧
      [.start] ++ [.validateModel] ++ entered ++ [.failed] = Stage.course.take n ++ [.failed] := by
  have hlength : entered.length ≤ 6 := hentered.length_le
  refine ⟨entered.length + 2, Nat.le_add_left 2 _, ?_, ?_⟩
  · simp only [Stage.course, List.length_cons, List.length_nil]
    omega
  · have htake := List.prefix_iff_eq_take.mp (hentered.trans (List.prefix_append _ [.done]))
    exact congrArg (fun passed => [.start] ++ [.validateModel] ++ passed ++ [.failed]) htake

theorem failed_nodup :
    ∀ n < Stage.course.length, (Stage.course.take n ++ [Stage.failed]).Nodup := by
  decide

theorem execute_history (hcrew : crew.LeavesStages) (pipeline : Pipeline) (loader : Loader)
    (w : Workspace) (registry : Mixin.Registry) (levels : Log.Levels)
    (hordinary : ∀ failure,
      (pipeline.execute loader w registry levels crew closing).outcome = .error failure →
        failure.isOrdinary = true) :
    let execution := pipeline.execute loader w registry levels crew closing
    let begun : Run := { Run.start w registry levels with stages := [.start] }
    (∃ report, execution.outcome = .ok report ∧ report.state = .done ∧
      execution.run.stages = Stage.course) ∨
    ∃ failure n, execution.outcome = .error failure ∧ 2 ≤ n ∧ n < Stage.course.length ∧
      execution.run.stages = Stage.course.take n ++ [.failed] ∧
      ((crew.attempt closing pipeline.options loader.load).run begun).1 = .error failure := by
  intro execution begun
  have hload : loader.load.Keeps SameStages := fun run => by
    rw [Loader.run_load]
    exact refl_of SameStages run
  obtain ⟨entered, hstages, hprefix, hall⟩ :=
    crew.attempt_passes pipeline.options closing hcrew hload begun
  rcases hattempt : (crew.attempt closing pipeline.options loader.load).run begun with
    ⟨outcome, after⟩
  rw [hattempt] at hstages hall
  cases outcome with
  | ok templates =>
      obtain ⟨⟨report, houtcome, hdone⟩, hrun⟩ := execute_of_passed hordinary hattempt
      refine .inl ⟨report, houtcome, hdone, ?_⟩
      obtain rfl := hall rfl
      rw [hrun]
      dsimp only at hstages ⊢
      rw [hstages]
      rfl
  | error failure =>
      obtain ⟨houtcome, hrun⟩ := execute_of_failed hordinary hattempt
      obtain ⟨n, hlow, hhigh, htake⟩ := failed_stages hprefix
      refine .inr ⟨failure, n, houtcome, hlow, hhigh, ?_, rfl⟩
      rw [hrun, ← htake]
      exact congrArg (· ++ [Stage.failed]) hstages

/-- However a pipeline was used before, a run goes through all stages and answers a report, or it goes
through the first of them and fails. It fails with what ended the last stage, unless the closing of a
collecting file is refused after that, which is then the failure of the run. A model that cannot be
read or breaks a rule is all that such a run comes to: the files and the registered members are left
as they were, and no plugin is loaded. -/
theorem execute_stages (pipeline : Pipeline) (loader : Loader) (w : Workspace)
    (registry : Mixin.Registry) (levels : Log.Levels) (crew : Crew) (closing : Output.Closing)
    (hcrew : crew.LeavesStages)
    (hordinary : ∀ failure,
      (pipeline.execute loader w registry levels crew closing).outcome = .error failure →
        failure.isOrdinary = true) :
    let execution := pipeline.execute loader w registry levels crew closing
    let history := execution.pipeline.history
    let start : Run := .start w registry levels
    let begun : Run := { start with stages := [.start] }
    history.Nodup ∧ history.getLast? = some execution.pipeline.stage ∧
    ((∃ report, execution.outcome = .ok report ∧ report.state = .done ∧ history = Stage.course) ∨
      ∃ failure n, execution.outcome = .error failure ∧
        2 ≤ n ∧ n < Stage.course.length ∧ history = Stage.course.take n ++ [.failed] ∧
        ((crew.attempt closing pipeline.options loader.load).run begun).1 = .error failure) ∧
    (∀ cause last,
      (crew.runToEnd closing pipeline.options loader.load).run begun = (.error cause, last) →
      execution.outcome = .error (closingFailure closing cause last)) ∧
    ∀ failure, loader.check w levels = .error failure →
      execution.outcome = .error failure ∧ history = [.start, .validateModel, .failed] ∧
        execution.run = { start with stages := history } := by
  intro execution history start begun
  have hends := execute_history closing hcrew pipeline loader w registry levels hordinary
  have hstage : execution.pipeline.stage = history.getLastD pipeline.stage := rfl
  refine ⟨?_, ?_, hends, ?_, ?_⟩
  · rcases hends with ⟨report, _, _, hcourse⟩ | ⟨failure, n, _, _, hn, htake, _⟩
    · rw [show history = Stage.course from hcourse]
      decide
    · rw [show history = _ from htake]
      exact failed_nodup n hn
  · rw [hstage]
    rcases hends with ⟨report, _, _, hcourse⟩ | ⟨failure, n, _, _, _, htake, _⟩
    · rw [show history = Stage.course from hcourse]
      rfl
    · rw [show history = _ from htake, List.getLast?_concat, List.getLastD_concat]
  · intro cause last hlast
    have hfailed := closeAfter_run (α := List Rendered) closing cause last
    have hattempt := crew.attempt_run pipeline.options closing loader.load begun
    rw [hlast] at hattempt
    rcases hclose : (closeAfter closing cause : Step (List Rendered)).run last with ⟨outcome, after⟩
    rw [hclose] at hfailed
    obtain rfl : outcome = .error (closingFailure closing cause last) := hfailed
    exact (execute_of_failed hordinary (hattempt.trans hclose)).1
  · intro failure hcheck
    have hattempt : (crew.attempt closing pipeline.options loader.load).run begun = _ :=
      crew.attempt_refused pipeline.options closing rfl hcheck
    obtain ⟨houtcome, hrun⟩ := execute_of_failed hordinary hattempt
    have hhistory : history = [.start, .validateModel, .failed] := congrArg Run.stages hrun
    refine ⟨houtcome, hhistory, ?_⟩
    rw [hhistory]
    exact hrun

/-! A pipeline that has been used, on a model in which two classes are called the same. -/

def used : Pipeline :=
  { sources := relativeSources, options := {}, stage := .done, history := Stage.course }

def twice : Loader := .given { classes := [{ name := "A" }, { name := "A" }] }

def refused : Execution := used.execute twice (twoTemplates "y").desk.workspace .empty {}

theorem execute_stages_refused :
    refused.pipeline.history = [.start, .validateModel, .failed] ∧
      refused.run.desk.workspace = (twoTemplates "y").desk.workspace := by
  have hends : (match refused.outcome with
      | .ok _ => false
      | .error failure => failure.isOrdinary) = true ∧
      (twice.check (twoTemplates "y").desk.workspace {}).isOk = false := by
    decide +kernel
  obtain ⟨hfails, hinvalid⟩ := hends
  have hordinary : ∀ failure, refused.outcome = .error failure → failure.isOrdinary = true := by
    intro failure hfailure
    rwa [hfailure] at hfails
  cases hcheck : twice.check (twoTemplates "y").desk.workspace {} with
  | ok m =>
      rw [hcheck] at hinvalid
      cases hinvalid
  | error failure =>
      obtain ⟨_, _, _, _, hrefused⟩ := execute_stages used twice (twoTemplates "y").desk.workspace
        .empty {} (.ofPlugins used.sources) .whole (Crew.ofPlugins_leavesStages _ _) hordinary
      obtain ⟨_, hhistory, hrun⟩ := hrefused failure hcheck
      exact ⟨hhistory, congrArg (fun run => run.desk.workspace) hrun⟩

/-! A disk that is full once a collecting file is closed. -/

def fullDisk : Output.Closing := fun w file =>
  (w, .error (.files .noSpace (Tree.pathOf file.place).toString))

/-- A run of two templates, of which the second one is broken, while the disk is full. -/
def crowded : Execution :=
  ({ sources := relativeSources, options := {} } : Pipeline).execute (.given oneClass)
    (twoTemplates "##output bogus b\ny").desk.workspace .empty {} (.ofPlugins relativeSources) fullDisk

/-- What is raised while the model is walked is not what the run fails with. -/
theorem execute_stages_crowded :
    let start : Run := .start (twoTemplates "##output bogus b\ny").desk.workspace .empty
    let walked := ((Crew.ofPlugins relativeSources).runToEnd fullDisk {} (Loader.given oneClass).load).run
      { start with stages := [.start] }
    (match walked.1 with
      | .error (.generation (.unknownMode mode _)) => mode == "bogus"
      | _ => false) = true ∧
    (match crowded.outcome with
      | .error (.files .noSpace path) => path == "/r/all"
      | _ => false) = true ∧
    crowded.pipeline.history =
      [.start, .validateModel, .loadGlobals, .loadPlatform, .walkModel, .failed] := by
  decide +kernel

end Pipeline

end Codegen.Generation
