import Codegen.Proofs.Generation.AtMostOnce
import Codegen.Proofs.Generation.Work
import Codegen.Proofs.Output.Route

/-! The files that a run leaves behind: those that come from routing what its templates were rendered
to, whatever else happens and wherever the run is cut short. -/

namespace Codegen.Generation

open Codegen.Files Codegen.Plugin

/-- The parcels of the templates that were rendered to the end, in order. -/
def shipped (events : List Event) : List Output.Parcel :=
  (events.filterMap Event.rendered?).map Rendered.parcel

/-! Everything but rendering leaves the files alone. -/

/-- Neither the files nor the open collecting files changed, and nothing was rendered. -/
structure Aside (run after : Run) : Prop where
  workspace : after.desk.workspace = run.desk.workspace
  aggregates : after.desk.aggregates = run.desk.aggregates
  levels : after.desk.levels = run.desk.levels
  journal : after.journal = run.journal ++ after.since run
  shipped : shipped (after.since run) = []

namespace Aside

variable {run middle after : Run}

theorem of_desk {events : List Event} (hworkspace : after.desk.workspace = run.desk.workspace)
    (haggregates : after.desk.aggregates = run.desk.aggregates)
    (hlevels : after.desk.levels = run.desk.levels) (hjournal : after.journal = run.journal ++ events)
    (hshipped : Generation.shipped events = []) : Aside run after := by
  have hsince := Run.since_eq hjournal
  subst hsince
  exact ⟨hworkspace, haggregates, hlevels, hjournal, hshipped⟩

theorem refl (run : Run) : Aside run run :=
  of_desk rfl rfl rfl (List.append_nil _).symm rfl

theorem trans (hfirst : Aside run middle) (hsecond : Aside middle after) : Aside run after := by
  have hjournal := Run.journal_append hfirst.journal hsecond.journal
  refine of_desk (hsecond.workspace.trans hfirst.workspace)
    (hsecond.aggregates.trans hfirst.aggregates) (hsecond.levels.trans hfirst.levels) hjournal ?_
  rw [Generation.shipped, List.filterMap_append, List.map_append]
  exact List.append_eq_nil_iff.mpr ⟨hfirst.shipped, hsecond.shipped⟩

instance : IsPreorder Run Aside where
  refl := refl
  trans _ _ _ := trans

theorem of_silent (hworkspace : after.desk.workspace = run.desk.workspace)
    (haggregates : after.desk.aggregates = run.desk.aggregates)
    (hlevels : after.desk.levels = run.desk.levels) (hjournal : after.journal = run.journal) :
    Aside run after :=
  of_desk hworkspace haggregates hlevels (by rw [hjournal, List.append_nil]) rfl

theorem keptByHooks (conduct : Conduct) : KeptByHooks conduct Aside where
  share _ _ _ := of_silent rfl rfl rfl rfl
  request _ := {
    done _ _ _ := of_desk rfl rfl rfl rfl rfl
    mark _ _ _ _ := of_silent rfl rfl rfl rfl
    missing _ _ _ _ _ _ _ _ := of_desk rfl rfl rfl rfl rfl
    begun _ _ _ _ _ _ _ _ _ := of_desk rfl rfl rfl rfl rfl }
  due _ _ _ := of_desk rfl rfl rfl rfl rfl
  called _ _ _ := of_desk rfl rfl rfl rfl rfl
  report _ _ _ := of_silent rfl rfl rfl rfl

theorem keptByLoading : KeptByLoading Aside where
  engine _ _ := of_silent rfl rfl rfl rfl
  script _ _ _ _ := of_silent rfl rfl rfl rfl

theorem enter (stage : Stage) : (Generation.enter stage).Keeps Aside :=
  fun _ => of_silent rfl rfl rfl rfl

theorem setContext (context : Context) : (Generation.setContext context).Keeps Aside :=
  fun _ => of_silent rfl rfl rfl rfl

end Aside

/-! Composing a template's parcel changes two entries of the context. -/

/-- Of the run, only the context changed, and in it only what templates find under `class` and
`output`. -/
def OnlyTemplateEntries (run after : Run) : Prop :=
  ∃ context, after = { run with desk := { run.desk with context } } ∧
    ∀ name, name ≠ "class" → name ≠ "output" →
      context.lookup name = run.desk.context.lookup name

namespace OnlyTemplateEntries

variable {run middle after : Run}

theorem trans (hfirst : OnlyTemplateEntries run middle)
    (hsecond : OnlyTemplateEntries middle after) : OnlyTemplateEntries run after := by
  obtain ⟨_, rfl, hbefore⟩ := hfirst
  obtain ⟨context, rfl, hafter⟩ := hsecond
  exact ⟨context, rfl, fun name hclass houtput =>
    (hafter name hclass houtput).trans (hbefore name hclass houtput)⟩

instance : IsPreorder Run OnlyTemplateEntries where
  refl run := ⟨run.desk.context, rfl, fun _ _ _ => rfl⟩
  trans _ _ _ := trans

theorem put {name : String} (hname : name = "class" ∨ name = "output") (v : Value) :
    (putContext name v).Keeps OnlyTemplateEntries := by
  intro run
  refine ⟨Table.put name v run.desk.context, rfl, fun other hclass houtput => ?_⟩
  refine Table.lookup_put_of_ne ?_ v run.desk.context
  rintro rfl
  rcases hname with rfl | rfl
  · exact hclass rfl
  · exact houtput rfl

theorem aside (h : OnlyTemplateEntries run after) : Aside run after := by
  obtain ⟨context, rfl, _⟩ := h
  exact .of_silent rfl rfl rfl rfl

end OnlyTemplateEntries

section

variable {R : Run → Run → Prop} [IsPreorder Run R]

theorem required_keeps (name : String) : (required name).Keeps R := by
  refine .bind context_keeps fun context => ?_
  split
  · exact .pure _
  · exact .throw _

theorem readMember_keeps (v : Value) (name : String) : (readMember v name).Keeps R :=
  .bind .get fun _ => .lift _

theorem displayed_keeps (v : Value) : (displayed v).Keeps R :=
  .bind .get fun _ => .pure _

theorem defaultPath_keeps (classifier : Value) (template : Path) (extension root : String) :
    (defaultPath classifier template extension root).Keeps R := by
  rw [defaultPath.eq_def]
  split
  · exact .pure _
  · refine .bind (readMember_keeps _ _) fun package => .bind (displayed_keeps _) fun before => ?_
    exact .bind (readMember_keeps _ _) fun name => .bind (displayed_keeps _) fun text => .pure _

theorem evaluate_keeps (template : Path) : (evaluate template).Keeps R :=
  .bind workspace_keeps fun _ => .bind (.lift _) fun _ => .bind .get fun _ => .lift _

theorem scopeName_keeps (classifier : Value) : (scopeName classifier).Keeps R := by
  rw [scopeName.eq_def]
  split
  · exact .pure _
  · exact .bind (readMember_keeps _ _) fun name => displayed_keeps name

theorem outputPath_keeps (extension : String) (classifier : Value) (template : Path)
    (explicit? : Option String) : (outputPath extension classifier template explicit?).Keeps R := by
  cases explicit? with
  | some path => exact .pure path
  | none =>
      exact .bind (required_keeps _) fun output => .bind (displayed_keeps output) fun root =>
        defaultPath_keeps classifier template extension root

end

theorem compose_keeps (extension : String) (classifier : Value) (template : Path) :
    (compose extension classifier template).Keeps OnlyTemplateEntries := by
  refine .bind (.put (.inl rfl) classifier) fun _ => ?_
  refine .bind (required_keeps _) fun options => .bind (readMember_keeps _ _) fun output => ?_
  refine .bind (.put (.inr rfl) output) fun _ => .bind (evaluate_keeps template) fun text => ?_
  refine .bind (scopeName_keeps classifier) fun scope => .bind (.say _ _ _) fun _ => ?_
  refine .bind (.lift _) fun (directive, body) => ?_
  exact .bind (outputPath_keeps extension classifier template _) fun path =>
    .bind (.say _ _ _) fun _ => .pure _

/-! The files are those that come from routing what was rendered. -/

/-- The desk after the run is the one that routing the parcels rendered meanwhile leaves, apart from
the context. -/
structure Ships (run after : Run) : Prop where
  journal : after.journal = run.journal ++ after.since run
  routed : ∃ (calls : List Output.Call) (results : List (Option Path)),
    calls.map (·.parcel) = shipped (after.since run) ∧
      ∀ context, ∃ context', (Output.routeAll calls).run { run.desk with context } =
        (.ok results, { after.desk with context := context' })

namespace Ships

variable {run middle after : Run}

theorem of_aside (h : Aside run after) : Ships run after := by
  refine ⟨h.journal, [], [], h.shipped.symm, fun context => ⟨context, ?_⟩⟩
  simp only [h.workspace, h.aggregates, h.levels]
  rfl

theorem trans (hfirst : Ships run middle) (hsecond : Ships middle after) : Ships run after := by
  have hjournal := Run.journal_append hfirst.journal hsecond.journal
  have hsince := Run.since_eq hjournal
  obtain ⟨calls, results, hcalls, hrouted⟩ := hfirst.routed
  obtain ⟨calls', results', hcalls', hrouted'⟩ := hsecond.routed
  refine ⟨hsince ▸ hjournal, calls ++ calls', results ++ results', ?_, fun context => ?_⟩
  · rw [List.map_append, hcalls, hcalls', hsince, shipped, shipped, shipped, List.filterMap_append,
      List.map_append]
  · obtain ⟨between, hbetween⟩ := hrouted context
    obtain ⟨context', hafter⟩ := hrouted' between
    refine ⟨context', ?_⟩
    rw [Output.routeAll, List.mapM_append]
    rw [Output.routeAll] at hbetween hafter
    rw [Stateful.run_bind_ok hbetween, Stateful.run_bind_ok hafter]
    rfl

theorem of_delivery {parcel : Output.Parcel} {written : Option Path} {desk : Output.Desk}
    (hdelivery : (parcel.deliver run.model).run run.desk = (.ok written, desk)) (classifier : Value)
    (result : Rendered) (hresult : result.parcel = parcel) :
    Ships run
      { run with
        desk, journal := run.journal ++ [.sent parcel, .rendered classifier result] } := by
  let after : Run :=
    { run with desk, journal := run.journal ++ [.sent parcel, .rendered classifier result] }
  have hjournal : after.journal = run.journal ++ [.sent parcel, .rendered classifier result] := rfl
  have hsince := Run.since_eq hjournal
  let call : Output.Call := ⟨run.model, run.desk.context, parcel⟩
  have hcalls : [call.parcel] = shipped (after.since run) := by
    rw [hsince]
    exact congrArg (fun parcel => [parcel]) hresult.symm
  refine ⟨by rw [hsince], [call], [written], hcalls, fun context => ⟨desk.context, ?_⟩⟩
  have hroute : call.route.run { run.desk with context } = (.ok written, desk) := hdelivery
  rw [Output.routeAll, List.mapM_cons, Stateful.run_bind_ok hroute]
  rfl

end Ships

/-- Whether the run ended while a parcel was on its way to a file. -/
def Run.isCutShort (run : Run) : Bool :=
  match run.journal.getLast? with
  | some (.sent parcel) => parcel.mode.isFiled
  | _ => false

/-- Whatever comes of the step, the files are those that come from routing what was rendered, unless
it fails while a parcel is on its way to a file. -/
def Step.Ships {α : Type} (step : Step α) : Prop :=
  ∀ run, Generation.Ships run (step.run run).2 ∨
    ((step.run run).1.isOk = false ∧ (step.run run).2.isCutShort = true)

namespace Step.Ships

variable {α β : Type}

theorem of_aside {step : Step α} (h : step.Keeps Aside) : step.Ships :=
  fun run => .inl (.of_aside (h run))

theorem of_ok {step : Step α} (h : step.Ships) {run after : Run} {x : α}
    (hrun : step.run run = (.ok x, after)) : Generation.Ships run after := by
  have hships := h run
  rw [hrun] at hships
  rcases hships with hships | ⟨hfailed, _⟩
  · exact hships
  · cases hfailed

theorem bind {step : Step α} {next : α → Step β} (hstep : step.Ships)
    (hnext : ∀ x, (next x).Ships) : (step >>= next).Ships := by
  intro run
  have hfirst := hstep run
  rw [Stateful.run_bind]
  rcases h : step.run run with ⟨outcome, middle⟩
  rw [h] at hfirst
  cases outcome with
  | error failure => exact hfirst
  | ok x =>
      rcases hfirst with hships | ⟨hfailed, _⟩
      · rcases hnext x middle with hafter | hcut
        · exact .inl (hships.trans hafter)
        · exact .inr hcut
      · cases hfailed

theorem mapM {step : α → Step β} (xs : List α) (hstep : ∀ x, (step x).Ships) :
    (xs.mapM step).Ships := by
  induction xs with
  | nil => exact of_aside (.pure [])
  | cons x rest ih =>
      rw [List.mapM_cons]
      exact bind (hstep x) fun y => bind ih fun _ => of_aside (.pure _)

end Step.Ships

/-- A body that goes to no file leaves all but the context, and fails before that changes or because
of the log. -/
theorem delivered_unfiled {m : Model} {parcel : Output.Parcel} {desk after : Output.Desk}
    {outcome : Except Failure (Option Path)} (hfiled : ¬ parcel.mode.isFiled = true)
    (h : (parcel.deliver m).run desk = (outcome, after)) :
    ∃ context, after = { desk with context } ∧ ∀ failure, outcome = .error failure →
      context = desk.context ∨ ∃ fault, failure = .markup fault := by
  have hdelivered := Output.delivered m parcel desk
  rw [h] at hdelivered
  cases hdelivered with
  | unfiled _ context hmode hcontext => exact ⟨context, rfl, hcontext⟩
  | blocked failure hmode => exact absurd hmode hfiled
  | written _ place hmode =>
      rcases hmode with hmode | hmode <;> exact absurd (by rw [hmode]; rfl) hfiled
  | appended _ hmode => exact absurd (by rw [hmode]; rfl) hfiled

/-- How the rendering of a template ends: before a parcel is sent, while the parcel is delivered, or
after that. -/
inductive RenderingEnds (extension : String) (classifier : Value) (template : Path) (run : Run) :
    Except Failure Rendered × Run → Prop
  | unsent (failure : Failure) (middle : Run)
      (hcompose : (compose extension classifier template).run run = (.error failure, middle)) :
      RenderingEnds extension classifier template run (.error failure, middle)
  | undelivered (parcel : Output.Parcel) (isExplicit : Bool) (middle : Run)
      (hcompose : (compose extension classifier template).run run =
        (.ok (parcel, isExplicit), middle))
      (failure : Failure) (desk : Output.Desk)
      (hdelivery : (parcel.deliver middle.model).run middle.desk = (.error failure, desk)) :
      RenderingEnds extension classifier template run
        (.error failure, { middle with desk, journal := middle.journal ++ [.sent parcel] })
  | rendered (parcel : Output.Parcel) (isExplicit : Bool) (middle : Run)
      (hcompose : (compose extension classifier template).run run =
        (.ok (parcel, isExplicit), middle))
      (written : Option Path) (desk : Output.Desk)
      (hdelivery : (parcel.deliver middle.model).run middle.desk = (.ok written, desk))
      (result : Rendered) (hparcel : result.parcel = parcel) (htemplate : result.template = template)
      (hwritten : result.written = written) :
      RenderingEnds extension classifier template run
        (.ok result,
          { middle with
            desk, journal := middle.journal ++ [.sent parcel, .rendered classifier result] })

theorem renderingEnds (extension : String) (classifier : Value) (template : Path) (run : Run) :
    RenderingEnds extension classifier template run
      ((renderTemplate extension classifier template).run run) := by
  rw [renderTemplate, Stateful.run_bind]
  rcases hcompose : (compose extension classifier template).run run with ⟨outcome, middle⟩
  cases outcome with
  | error failure => exact .unsent failure middle hcompose
  | ok composed =>
      obtain ⟨parcel, isExplicit⟩ := composed
      dsimp only
      rw [Stateful.run_bind_ok (run_record _ _), Stateful.run_bind_ok (Stateful.run_get _),
        Stateful.run_bind, Step.run_ofRouting]
      rcases hdelivery : (parcel.deliver middle.model).run middle.desk with ⟨outcome, desk⟩
      have hsent : (parcel.deliver (middle.recording (.sent parcel)).model).run
          (middle.recording (.sent parcel)).desk = (outcome, desk) := hdelivery
      rw [hsent]
      cases outcome with
      | error failure => exact .undelivered parcel isExplicit middle hcompose failure desk hdelivery
      | ok written =>
          have hrendered := RenderingEnds.rendered parcel isExplicit middle hcompose written desk
            hdelivery ⟨template, parcel.mode, parcel.path, parcel.body, isExplicit, written⟩ rfl rfl rfl
          rw [List.append_cons] at hrendered
          exact hrendered

theorem renderTemplate_ships (extension : String) (classifier : Value) (template : Path) :
    (renderTemplate extension classifier template).Ships := by
  intro run
  have hcomposed := compose_keeps extension classifier template run
  have hends := renderingEnds extension classifier template run
  generalize (renderTemplate extension classifier template).run run = result at hends
  cases hends with
  | unsent failure middle hcompose =>
      rw [hcompose] at hcomposed
      exact .inl (.of_aside hcomposed.aside)
  | undelivered parcel isExplicit middle hcompose failure desk hdelivery =>
      rw [hcompose] at hcomposed
      by_cases hfiled : parcel.mode.isFiled = true
      · refine .inr ⟨rfl, ?_⟩
        rw [Run.isCutShort, List.getLast?_concat]
        exact hfiled
      · left
        obtain ⟨context, rfl, _⟩ := delivered_unfiled hfiled hdelivery
        refine .of_aside (hcomposed.aside.trans ?_)
        exact .of_desk rfl rfl rfl rfl rfl
  | rendered parcel isExplicit middle hcompose written desk hdelivery result hparcel htemplate =>
      rw [hcompose] at hcomposed
      exact .inl ((Ships.of_aside hcomposed.aside).trans
        (.of_delivery hdelivery classifier result hparcel))

/-! The stages of a run. -/

theorem renderAll_ships (extension : String) (classifier : Value) (templates : List Path) :
    (renderAll extension classifier templates).Ships :=
  .mapM templates (renderTemplate_ships extension classifier)

theorem processClass_ships (conduct : Conduct) (sources : Sources) (projectScripts : List Nat)
    (m : Model) (i j : Nat) : (processClass conduct sources projectScripts m i j).Ships := by
  refine .bind (.of_aside (.say _ _ _)) fun _ => .bind (.of_aside context_keeps) fun context => ?_
  refine .bind (.of_aside (.setContext _)) fun _ => ?_
  refine .bind (.of_aside (runScripts_keeps (Aside.keptByHooks conduct) _ m i j)) fun _ => ?_
  refine .bind (.of_aside (loadScripts_keeps Aside.keptByLoading _ _ _ _)) fun scripts => ?_
  refine .bind (.of_aside (runScripts_keeps (Aside.keptByHooks conduct) _ m i j)) fun _ => ?_
  exact .bind (.of_aside (find_keeps _ _ _ _)) fun templates => renderAll_ships _ _ templates

theorem prepare_aside (conduct : Conduct) (sources : Sources) (options : Settings.Options)
    {load : Step Model} (hload : load.Keeps Aside) :
    (prepare conduct sources options load).Keeps Aside := by
  refine .bind (.enter _) fun _ => .bind hload fun m => .bind .get fun run => ?_
  refine .bind (.lift _) fun _ => .bind (fun _ => .of_silent rfl rfl rfl rfl) fun _ => ?_
  refine .bind (.setContext _) fun _ => .bind (.enter _) fun _ => ?_
  refine .bind (loadGlobals_keeps sources Aside.keptByLoading.engine) fun _ => .bind (.enter _) fun _ => ?_
  exact .bind (loadPlatform_keeps sources (Aside.keptByHooks conduct) Aside.keptByLoading) fun _ => .pure _

theorem processProject_ships (conduct : Conduct) (sources : Sources) (projectScripts : List Nat) :
    (processProject conduct sources projectScripts).Ships := by
  refine .bind (.of_aside (.enter _)) fun _ => .bind (.of_aside context_keeps) fun context => ?_
  refine .bind (.of_aside (.setContext _)) fun _ => ?_
  refine .bind (.of_aside (runLifecycles_keeps (Aside.keptByHooks conduct) projectScripts _)) fun _ => ?_
  refine .bind (.of_aside (.enter _)) fun _ => .bind (.of_aside (find_keeps _ _ _ _)) fun templates => ?_
  exact renderAll_ships _ _ templates

theorem runStages_ships (conduct : Conduct) (sources : Sources) (options : Settings.Options)
    {load : Step Model} (hload : load.Keeps Aside) :
    (runStages conduct sources options load).Ships := by
  refine .bind (.of_aside (prepare_aside conduct sources options hload)) fun (m, scripts) => ?_
  refine .bind (.of_aside (.enter _)) fun _ => ?_
  refine .bind (.mapM _ fun (i, j) => processClass_ships conduct sources scripts m i j)
    fun forClasses => ?_
  exact .bind (processProject_ships conduct sources scripts) fun _ => .of_aside (.pure _)

/-! The end of a run. -/

/-- Neither the desk nor the journal nor the scripts changed. -/
structure DeskKept (run after : Run) : Prop where
  desk : after.desk = run.desk
  journal : after.journal = run.journal
  scripts : after.scripts = run.scripts

instance : IsPreorder Run DeskKept where
  refl _ := ⟨rfl, rfl, rfl⟩
  trans _ _ _ hfirst hsecond :=
    ⟨hsecond.desk.trans hfirst.desk, hsecond.journal.trans hfirst.journal,
      hsecond.scripts.trans hfirst.scripts⟩

theorem enter_deskKept (stage : Stage) : (enter stage).Keeps DeskKept :=
  fun _ => ⟨rfl, rfl, rfl⟩

def Run.closed (run : Run) : Run :=
  { run with
    desk := { run.desk with
      workspace := run.desk.aggregates.closeAll run.desk.workspace, aggregates := [] } }

theorem run_ofRouting_closeAll (run : Run) :
    (Step.ofRouting Output.closeAll).run run = (.ok run.desk.aggregates.length, run.closed) := by
  rw [Step.run_ofRouting, Output.run_closeAll]
  rfl

/-- The collecting files are closed, after what was rendered was routed, unless that was cut
short. -/
structure Settled (start after : Run) : Prop where
  aggregates : after.desk.aggregates = []
  files : after.isCutShort = true ∨ ∃ last, Ships start last ∧ after.journal = last.journal ∧
    after.desk.workspace = last.desk.aggregates.closeAll last.desk.workspace

namespace Settled

variable {start run after : Run}

theorem of_closed (h : Ships start run ∨ run.isCutShort = true) : Settled start run.closed := by
  refine ⟨rfl, ?_⟩
  rcases h with hships | hcut
  · exact .inr ⟨run, hships, rfl, rfl⟩
  · exact .inl hcut

theorem kept (h : Settled start run) (hkept : DeskKept run after) : Settled start after := by
  refine ⟨hkept.desk ▸ h.aggregates, ?_⟩
  rcases h.files with hcut | ⟨last, hships, hjournal, hworkspace⟩
  · left
    rwa [Run.isCutShort, hkept.journal]
  · exact .inr ⟨last, hships, hkept.journal.trans hjournal, hkept.desk ▸ hworkspace⟩

end Settled

theorem abandon_run {α : Type} (failure : Failure) (run : Run) :
    ∃ failure' after, (abandon failure : Step α).run run = (.error failure', after) ∧
      DeskKept run.closed after := by
  rw [abandon, Stateful.run_bind_ok (run_ofRouting_closeAll run)]
  by_cases hinterrupt : failure.isInterrupt = true
  · rw [if_pos hinterrupt]
    exact ⟨failure, run.closed, rfl, rfl, rfl, rfl⟩
  · rw [if_neg hinterrupt, Stateful.run_bind_ok (Stateful.run_get _),
      Stateful.run_bind_ok (run_enter _ _), Stateful.run_bind, run_say]
    cases Log.pipelineLogger.say _ _ _ <;> exact ⟨_, _, rfl, rfl, rfl, rfl⟩

theorem conclude_deskKept (sources : Sources) (templates : List Rendered) :
    (conclude sources templates).Keeps DeskKept := by
  refine .bind (enter_deskKept _) fun _ => .bind .get fun run => ?_
  dsimp only
  split
  · exact .bind (.say _ _ _) fun _ => .pure _
  · exact .pure _

theorem runToEnd_run (conduct : Conduct) (sources : Sources) (options : Settings.Options)
    (load : Step Model) (run : Run) :
    (runToEnd conduct sources options load).run run =
      match (runStages conduct sources options load).run run with
      | (.ok templates, after) =>
        (.ok templates,
          Run.closed { after with stages := after.stages ++ [.flushAggregates] })
      | (.error failure, after) => (.error failure, after) := by
  rw [runToEnd, Stateful.run_bind]
  rcases (runStages conduct sources options load).run run with ⟨outcome, after⟩
  cases outcome with
  | error failure => rfl
  | ok templates =>
      dsimp only
      rw [Stateful.run_bind_ok (run_enter _ _), Stateful.run_bind_ok (run_ofRouting_closeAll _)]
      rfl

theorem runPipeline_ok_iff {conduct : Conduct} {sources : Sources} {options : Settings.Options}
    {load : Step Model} {start after : Run} {report : Report} :
    (runPipeline sources options load conduct).run start = (.ok report, after) ↔
      ∃ templates last, (runStages conduct sources options load).run
          { start with stages := start.stages ++ [.start] } = (.ok templates, last) ∧
        (conclude sources templates).run
          (Run.closed { last with stages := last.stages ++ [.flushAggregates] }) =
            (.ok report, after) := by
  rw [runPipeline, Stateful.run_bind_ok (run_enter .start start), Stateful.run_bind,
    Stateful.run_tryCatch, runToEnd_run]
  rcases (runStages conduct sources options load).run
    { start with stages := start.stages ++ [.start] } with ⟨outcome, last⟩
  cases outcome with
  | error failure =>
      obtain ⟨failure', abandoned, habandon, _⟩ := abandon_run (α := List Rendered) failure last
      dsimp only
      rw [habandon]
      constructor
      · intro hrun
        cases hrun
      · rintro ⟨_, _, ⟨⟩, _⟩
  | ok templates =>
      constructor
      · intro hrun
        exact ⟨templates, last, rfl, hrun⟩
      · rintro ⟨_, _, ⟨⟩, hrun⟩
        exact hrun

theorem runPipeline_settled (conduct : Conduct) (sources : Sources) (options : Settings.Options)
    {load : Step Model} (hload : load.Keeps Aside) (start : Run) :
    Settled start ((runPipeline sources options load conduct).run start).2 := by
  let begun : Run := { start with stages := start.stages ++ [.start] }
  have hbegun : Ships start begun := .of_aside (Aside.enter .start start)
  have hstages := runStages_ships conduct sources options hload begun
  rw [runPipeline, Stateful.run_bind_ok (run_enter .start start), Stateful.run_bind,
    Stateful.run_tryCatch, runToEnd_run]
  rcases hrun : (runStages conduct sources options load).run begun with ⟨outcome, after⟩
  rw [hrun] at hstages
  have hsettles : Ships start after ∨ after.isCutShort = true :=
    hstages.imp hbegun.trans And.right
  cases outcome with
  | error failure =>
      obtain ⟨failure', abandoned, hrun, hkept⟩ := abandon_run failure after
      dsimp only
      rw [hrun]
      exact (Settled.of_closed hsettles).kept hkept
  | ok templates =>
      let flushed : Run := { after with stages := after.stages ++ [.flushAggregates] }
      have hflushed : Ships start flushed ∨ flushed.isCutShort = true :=
        hsettles.imp (fun hships => hships.trans (.of_aside (Aside.enter .flushAggregates after))) id
      exact (Settled.of_closed hflushed).kept (conclude_deskKept sources templates flushed.closed)

/-- A template whose rendering fails leaves the files and what was accumulated as they were, unless
its parcel was on its way to a file. -/
theorem renderTemplate_failed {extension : String} {classifier : Value} {template : Path}
    {run after : Run} {failure : Failure}
    (hfail : (renderTemplate extension classifier template).run run = (.error failure, after))
    (hwhole : after.isCutShort = false) (hlog : ∀ fault, failure ≠ .markup fault) :
    shipped (after.since run) = [] ∧ after.desk.workspace = run.desk.workspace ∧
      after.desk.aggregates = run.desk.aggregates ∧
      ∀ name, name ≠ "class" → name ≠ "output" →
        after.desk.context.lookup name = run.desk.context.lookup name := by
  have hcomposed := compose_keeps extension classifier template run
  have hends := renderingEnds extension classifier template run
  rw [hfail] at hends
  cases hends with
  | unsent _ middle hcompose =>
      rw [hcompose] at hcomposed
      obtain ⟨context, rfl, hcontext⟩ := hcomposed
      have hsince := (Aside.of_silent rfl rfl rfl rfl :
        Aside run { run with desk := { run.desk with context } }).shipped
      exact ⟨hsince, rfl, rfl, hcontext⟩
  | undelivered parcel isExplicit middle hcompose _ desk hdelivery =>
      rw [hcompose] at hcomposed
      obtain ⟨context, rfl, hcontext⟩ := hcomposed
      have hfiled : ¬ parcel.mode.isFiled = true := by
        rw [Run.isCutShort, List.getLast?_concat] at hwhole
        simpa using hwhole
      obtain ⟨context', rfl, hkept⟩ := delivered_unfiled hfiled hdelivery
      have hsame : context' = context := by
        rcases hkept failure rfl with hsame | ⟨fault, hfault⟩
        · exact hsame
        · exact absurd hfault (hlog fault)
      subst hsame
      have hsent : (run.journal ++ [Event.sent parcel]).drop run.journal.length = [.sent parcel] :=
        List.drop_left
      exact ⟨congrArg shipped hsent, rfl, rfl, hcontext⟩

/-- A run that fails leaves no collecting file open. Unless it fails while a parcel is on its way to a
file, its files are those that come from routing, in order, the parcels of the templates that were
rendered, and then closing the collecting files; a template that fails contributes nothing. -/
theorem runPipeline_failed (conduct : Conduct) (sources : Sources) (options : Settings.Options)
    {load : Step Model} (hload : load.Keeps Aside) :
    (∀ start failure after,
      (runPipeline sources options load conduct).run start = (.error failure, after) →
      after.desk.aggregates = [] ∧
        (after.isCutShort = false →
          let w := start.desk.workspace
          let parcels := shipped (after.since start)
          (∃ calls : List Output.Call, calls.map (·.parcel) = parcels ∧
            let routed := (Output.routeAll calls).run start.desk
            routed.1.isOk = true ∧
              after.desk.workspace = (Output.closeAll.run routed.2).2.workspace) ∧
          (start.desk.aggregates = [] → w.Rooted → ∀ place ∈ Output.opened w parcels,
            (∀ parcel ∈ parcels, ¬ parcel.Replaces w place) →
            after.desk.workspace.tree.get? place =
              some (.file (.bytes (String.join (Output.collected w place parcels)).toUTF8))))) ∧
    ∀ extension classifier template run failure after,
      (renderTemplate extension classifier template).run run = (.error failure, after) →
      after.isCutShort = false → (∀ fault, failure ≠ .markup fault) →
      shipped (after.since run) = [] ∧ after.desk.workspace = run.desk.workspace ∧
        after.desk.aggregates = run.desk.aggregates ∧
        ∀ name, name ≠ "class" → name ≠ "output" →
          after.desk.context.lookup name = run.desk.context.lookup name := by
  refine ⟨?_, fun _ _ _ _ _ _ => renderTemplate_failed⟩
  intro start failure after hfail
  have hsettled := runPipeline_settled conduct sources options hload start
  rw [hfail] at hsettled
  refine ⟨hsettled.aggregates, fun hwhole => ?_⟩
  rcases hsettled.files with hcut | ⟨last, hships, hjournal, hworkspace⟩
  · rw [hwhole] at hcut
    cases hcut
  · obtain ⟨calls, results, hcalls, hrouted⟩ := hships.routed
    obtain ⟨context, hlast⟩ := hrouted start.desk.context
    have hsince : after.since start = last.since start := by
      rw [Run.since, Run.since, hjournal]
    have hlast' : (Output.routeAll calls).run start.desk =
        (.ok results, { last.desk with context }) := hlast
    refine ⟨⟨calls, hsince ▸ hcalls, ?_⟩, fun hfresh hrooted place hplace hreplaces => ?_⟩
    · rw [hlast']
      exact ⟨rfl, hworkspace⟩
    · have hcollecting := Output.routeAll_collecting hfresh hrooted hlast'
      rw [hcalls, ← hsince] at hcollecting
      have hclosed := (hcollecting.gathers place hplace hreplaces).closed hcollecting.nodup
      rw [hworkspace]
      exact hclosed

/-! A class with two templates, of which the first is collected and the second is given. -/

def twoTemplates (second : String) : Run :=
  .start
    { tree := ⟨[(["r"], .directory), (["r", "p"], .directory), (["r", "p", "E"], .directory),
        (["r", "p", "E", "a.j2"], .file (.bytes "##output aggregate all\nx".toUTF8)),
        (["r", "p", "E", "b.j2"], .file (.bytes second.toUTF8))]⟩
      directory := ["r"] } .empty

def relativeSources : Sources :=
  { platform := .ofString "p", globals := .ofString "g", scriptExtension := ".py"
    templateExtension := ".j2" }

def oneClass : Model := { classes := [{ name := "A", stereotypes := [{ name := "E" }] }] }

def endOf (second : String) : Except Failure Report × Run :=
  (runPipeline relativeSources {} (pure oneClass)).run (twoTemplates second)

/-- An unknown directive is found out before anything is sent. -/
theorem runPipeline_failed_directive :
    let after := (endOf "##output bogus b\ny").2
    after.desk.aggregates = [] ∧
      after.desk.workspace.tree.get? ["r", "all"] = some (.file (.bytes "x".toUTF8)) := by
  intro after
  have hends : (endOf "##output bogus b\ny").1.isOk = false ∧ after.isCutShort = false ∧
      shipped (after.since (twoTemplates "##output bogus b\ny")) = [⟨.aggregate, "all", "x"⟩] := by
    decide +kernel
  obtain ⟨hfailed, hwhole, hshipped⟩ := hends
  rcases hrun : endOf "##output bogus b\ny" with ⟨outcome, finished⟩
  rw [hrun] at hfailed
  cases outcome with
  | ok report => cases hfailed
  | error failure =>
      have hafter : after = finished := congrArg Prod.snd hrun
      rw [hafter] at hwhole hshipped ⊢
      obtain ⟨haggregates, hfiles⟩ := (runPipeline_failed .ofPlugins relativeSources {}
        (.pure oneClass)).1 _ failure finished hrun
      refine ⟨haggregates, ?_⟩
      have hcollected := (hfiles hwhole).2 rfl (by decide +kernel) ["r", "all"]
      simp only [hshipped] at hcollected
      have hbody : String.join (Output.collected (twoTemplates "##output bogus b\ny").desk.workspace
          ["r", "all"] [⟨.aggregate, "all", "x"⟩]) = "x" := by
        decide +kernel
      rw [hbody] at hcollected
      exact hcollected (by decide +kernel) (by decide +kernel)

/-- A path with a null character: the file system creates the directories on the way and then refuses
the file, with an error that is not one of the operating system. -/
theorem runPipeline_nullCharacter :
    let start := twoTemplates "##output overwrite new/a\x00b\ny"
    let (outcome, after) := endOf "##output overwrite new/a\x00b\ny"
    let routed := (Output.routeAll [⟨oneClass, [], ⟨.aggregate, "all", "x"⟩⟩]).run start.desk
    (match outcome with
      | .error (.files .nullCharacter _) => true
      | _ => false) = true ∧
    shipped (after.since start) = [⟨.aggregate, "all", "x"⟩] ∧ routed.1.isOk = true ∧
    ((Output.closeAll.run routed.2).2.workspace.tree.get? ["r", "new"]).isNone = true ∧
    (after.desk.workspace.tree.get? ["r", "new"]).isSome = true := by
  decide +kernel

end Codegen.Generation
