import Codegen.Proofs.Generation.Reported
import Codegen.Proofs.Generation.Sight
import Codegen.Proofs.Generation.Stages
import Codegen.Proofs.Output.Again

/-! A run that is repeated on the files that it left: where the first run succeeds, so does the second,
and it sends the same. -/

namespace Codegen.Generation

open Codegen.Files Codegen.Model

/-- A run that succeeded, with what it sent, the desk that it left before the collecting files were
closed, and how files have to look for its steps to do the same again. -/
structure Rerun where
  origin : Workspace
  levels : Log.Levels
  sent : List Output.Receipt
  last : Output.Desk
  sees : Workspace → Prop

namespace Rerun

/-- The files after the run, on which it is repeated. -/
def settled (r : Rerun) : Workspace := r.last.closed

/-- At every moment of both times the files look right. -/
structure Steady (r : Rerun) : Prop where
  rooted : r.origin.Rooted
  first : ∀ w ∈ Output.moments r.origin r.levels (r.sent.map (·.parcel)), r.sees w
  second : ∀ w ∈ Output.moments r.settled r.levels (r.sent.map (·.parcel)), r.sees w
  log : ∀ receipt ∈ r.sent, receipt.parcel.mode = .preserve →
    Log.outputLogger.say r.levels .debug s!"Preserving existing file {receipt.parcel.address}" = .ok ()

/-- The second time has come as far as the first time. The desks differ in the files alone. -/
structure Keeps (r : Rerun) (done : List Output.Receipt) (desk : Output.Desk) (again : Workspace) :
    Prop where
  first : Output.Sends ⟨r.origin, [], [], r.levels⟩ done desk
  second : ∃ sent, sent.map (·.parcel) = done.map (·.parcel) ∧
    Output.Sends ⟨r.settled, [], [], r.levels⟩ sent { desk with workspace := again }
  echoes : Output.Echoes r.origin r.settled done desk.workspace again desk.aggregates

namespace Keeps

variable {r : Rerun} {done rest : List Output.Receipt} {desk after : Output.Desk} {again : Workspace}

theorem start (r : Rerun) : r.Keeps [] ⟨r.origin, [], [], r.levels⟩ r.settled :=
  ⟨.nothing, ⟨[], rfl, .nothing⟩, .start r.origin r.settled⟩

theorem context (h : r.Keeps done desk again) (context : Context) :
    r.Keeps done { desk with context } again := by
  obtain ⟨sent, hsent, hsecond⟩ := h.second
  exact ⟨h.first.aside context, ⟨sent, hsent, hsecond.aside context⟩, h.echoes⟩

theorem levels (h : r.Keeps done desk again) : desk.levels = r.levels := h.first.levels

theorem sees (hr : r.Steady) (h : r.Keeps done desk again) (hdone : done <+: r.sent) :
    r.sees desk.workspace ∧ r.sees again := by
  have hprefix : done.map (·.parcel) <+: r.sent.map (·.parcel) := hdone.map _
  obtain ⟨sent, hsent, hsecond⟩ := h.second
  exact ⟨hr.first _ (h.first.mem_moments hprefix),
    hr.second again (hsecond.mem_moments (hsent ▸ hprefix))⟩

theorem next {m : Model} {parcel : Output.Parcel} {written : Option Path} (hr : r.Steady)
    (h : r.Keeps done desk again) (hdelivers : Output.Delivers m parcel desk written after)
    (hrest : Output.Sends after rest r.last) (hall : done ++ [⟨parcel, written⟩] ++ rest = r.sent) :
    ∃ written' again', Output.Delivers m parcel { desk with workspace := again } written'
        { after with workspace := again' } ∧
      r.Keeps (done ++ [⟨parcel, written⟩]) after again' := by
  have hfirst := h.first.next hdelivers
  -- Neither what is delivered later nor the closing takes away what is there now.
  have hsettled : after.workspace.Persists r.settled :=
    (hfirst.persists rfl hr.rooted hrest).trans r.last.closed_persists
  have hlog : parcel.mode = .preserve → Log.outputLogger.say desk.levels .debug
      s!"Preserving existing file {parcel.address}" = .ok () := by
    rw [h.levels]
    refine hr.log ⟨parcel, written⟩ ?_
    rw [← hall]
    simp
  obtain ⟨written', again', hagain, hechoes⟩ :=
    hdelivers.twice hr.rooted (h.first.sent rfl hr.rooted) h.echoes hsettled hlog
  obtain ⟨sent, hsent, hsecond⟩ := h.second
  refine ⟨written', again', hagain, hfirst, ⟨sent ++ [⟨parcel, written'⟩], ?_, hsecond.next hagain⟩,
    hechoes⟩
  rw [List.map_append, List.map_append, hsent]
  rfl

end Keeps

end Rerun

/-- Wherever the second time has come as far as the first time, and the step succeeds the first time, it
succeeds the second time and sends the same. -/
def Step.Repeats {α : Type} (r : Rerun) (step : Step α) (rendered : α → List Rendered) : Prop :=
  ∀ done rest run after x again journal, r.Keeps done run.desk again →
    step.run run = (.ok x, after) → Output.Sends after.desk rest r.last →
    done ++ receipts (rendered x) ++ rest = r.sent →
    ∃ y again' journal', step.run (run.on again journal) = (.ok y, after.on again' journal') ∧
      (rendered y).map Rendered.parcel = (rendered x).map Rendered.parcel ∧
      r.Keeps (done ++ receipts (rendered x)) after.desk again'

namespace Step.Repeats

variable {α β γ : Type} {r : Rerun}

/-- A step that only prepares what follows; what it answers may be relied on. -/
theorem aside_bind_of {step : Step α} {next : α → Step β} {rendered : β → List Rendered}
    {Q : α → Prop} (hr : r.Steady) (hkeeps : step.Keeps Aside) (hmirrors : step.Mirrors r.sees)
    (hanswer : ∀ run x after, r.sees run.desk.workspace → run.desk.levels = r.levels →
      step.run run = (.ok x, after) → Q x)
    (hnext : ∀ x, Q x → (next x).Repeats r rendered) : (step >>= next).Repeats r rendered := by
  intro done rest run after y again journal hkept hrun hrest hall
  obtain ⟨x, middle, hfirst, hsecond⟩ := Stateful.bind_ok_iff.mp hrun
  have hdone : done <+: r.sent := ⟨_, by rw [← hall, List.append_assoc]⟩
  obtain ⟨hsees, hsees'⟩ := hkept.sees hr hdone
  obtain ⟨_, journal', hmirror⟩ := hmirrors run again journal hsees hsees'
  rw [hfirst] at hmirror
  have haside := hkeeps.of_run hfirst
  -- Of the desk, the step changed the context at most, and that it changed both times.
  have hmiddle : r.Keeps done middle.desk again := by
    have hdesk : middle.desk = { run.desk with context := middle.desk.context } := by
      simp only [← haside.workspace, ← haside.aggregates, ← haside.levels]
    rw [hdesk]
    exact hkept.context _
  rw [Stateful.run_bind_ok hmirror]
  exact hnext x (hanswer run x middle hsees hkept.levels hfirst) done rest middle after y again journal'
    hmiddle hsecond hrest hall

theorem aside_bind {step : Step α} {next : α → Step β} {rendered : β → List Rendered}
    (hr : r.Steady) (hkeeps : step.Keeps Aside) (hmirrors : step.Mirrors r.sees)
    (hnext : ∀ x, (next x).Repeats r rendered) : (step >>= next).Repeats r rendered :=
  aside_bind_of (Q := fun _ => True) hr hkeeps hmirrors (fun _ _ _ _ _ _ => trivial)
    fun x _ => hnext x

theorem both {first : Step α} {second : Step β} {combine : α → β → γ}
    {rendered : α → List Rendered} {rendered' : β → List Rendered} {all : γ → List Rendered}
    (hfirst : first.Repeats r rendered) (hsecond : second.Repeats r rendered')
    (hreports : second.Reports rendered')
    (hcombine : ∀ x y, all (combine x y) = rendered x ++ rendered' y) :
    Step.Repeats r (do let x ← first; let y ← second; return combine x y) all := by
  intro done rest run after z again journal hkept hrun hrest hall
  obtain ⟨x, middle, hx, hlater⟩ := Stateful.bind_ok_iff.mp hrun
  obtain ⟨y, last, hy, hlast⟩ := Stateful.bind_ok_iff.mp hlater
  cases hlast
  have hreceipts : receipts (all (combine x y)) = receipts (rendered x) ++ receipts (rendered' y) := by
    rw [hcombine, receipts, List.map_append]
    rfl
  rw [hreceipts] at hall ⊢
  -- What the second step sends is part of what is to come after the first.
  obtain ⟨x', between, journal', hx', hsame, hmiddle⟩ := hfirst done (receipts (rendered' y) ++ rest) run
    middle x again journal hkept hx ((hreports middle after y hy).trans hrest) (by simpa using hall)
  obtain ⟨y', again', journal'', hy', hsame', hafter⟩ := hsecond (done ++ receipts (rendered x)) rest middle
    after y between journal' hmiddle hy hrest (by simpa using hall)
  refine ⟨combine x' y', again', journal'', ?_, ?_, by simpa using hafter⟩
  · rw [Stateful.run_bind_ok hx', Stateful.run_bind_ok hy']
    rfl
  · rw [hcombine, hcombine, List.map_append, List.map_append, hsame, hsame']

theorem mapM {step : α → Step β} {rendered : β → List Rendered} (xs : List α)
    (hstep : ∀ x ∈ xs, (step x).Repeats r rendered) (hreports : ∀ x, (step x).Reports rendered) :
    (xs.mapM step).Repeats r fun ys => ys.flatMap rendered := by
  induction xs with
  | nil =>
      intro done rest run after ys again journal hkept hrun _ _
      cases hrun
      refine ⟨[], again, journal, rfl, rfl, ?_⟩
      rw [show receipts _ = [] from rfl, List.append_nil]
      exact hkept
  | cons x xs ih =>
      rw [List.mapM_cons]
      exact both (hstep x List.mem_cons_self) (ih fun y hy => hstep y (List.mem_cons_of_mem x hy))
        (.mapM xs hreports) fun y ys => List.flatMap_cons

end Step.Repeats

/-! Templates. -/

theorem renderTemplate_of_delivered {extension : String} {classifier : Value} {template : Path}
    {run middle : Run} {parcel : Output.Parcel} {isExplicit : Bool} {written : Option Path}
    {desk : Output.Desk}
    (hcompose : (compose extension classifier template).run run = (.ok (parcel, isExplicit), middle))
    (hdelivery : (parcel.deliver middle.model).run middle.desk = (.ok written, desk)) :
    ∃ result journal, (renderTemplate extension classifier template).run run =
        (.ok result, { middle with desk, journal }) ∧ result.parcel = parcel := by
  have hends := renderingEnds extension classifier template run
  rcases hrun : (renderTemplate extension classifier template).run run with ⟨outcome, after⟩
  rw [hrun] at hends
  cases hends with
  | unsent failure _ hfailed =>
      rw [hcompose] at hfailed
      cases hfailed
  | undelivered _ _ _ hcomposed failure _ hfailed =>
      rw [hcompose] at hcomposed
      cases hcomposed
      rw [hdelivery] at hfailed
      cases hfailed
  | rendered _ _ _ hcomposed _ _ hdelivered result hparcel =>
      rw [hcompose] at hcomposed
      cases hcomposed
      rw [hdelivery] at hdelivered
      cases hdelivered
      exact ⟨result, _, rfl, hparcel⟩

section

variable {r : Rerun} {w : Workspace} (hr : r.Steady)
include hr

theorem renderTemplate_repeats {template : Path} (htemplate : SteadyFile r.sees w template)
    (extension : String) (classifier : Value) :
    (renderTemplate extension classifier template).Repeats r fun result => [result] := by
  intro done rest run after result again journal hkept hrun hrest hall
  have hends := renderingEnds extension classifier template run
  have haside := compose_keeps extension classifier template run
  rw [hrun] at hends
  cases hends with
  | rendered parcel isExplicit middle hcompose written desk hdelivery _ hparcel _ hwritten =>
      rw [hcompose] at haside
      obtain ⟨context, rfl, _⟩ := haside
      have hdone : done <+: r.sent := ⟨_, by rw [← hall, List.append_assoc]⟩
      obtain ⟨hsees, hsees'⟩ := hkept.sees hr hdone
      obtain ⟨_, journal', hmirror⟩ :=
        compose_mirrors htemplate extension classifier run again journal hsees hsees'
      rw [hcompose] at hmirror
      have hreceipt : receipts [result] = [⟨parcel, written⟩] := by
        rw [← hparcel, ← hwritten]
        rfl
      rw [hreceipt] at hall ⊢
      obtain ⟨written', again', hagain, hafter⟩ :=
        (hkept.context context).next hr (Output.delivers_of_run hdelivery) hrest hall
      obtain ⟨result', journal'', hrendered, hsame⟩ := renderTemplate_of_delivered hmirror hagain.run
      exact ⟨result', again', journal'', hrendered, by simp [hsame, hparcel], hafter⟩

theorem renderAll_repeats {templates : List Path}
    (htemplates : ∀ template ∈ templates, SteadyFile r.sees w template) (extension : String)
    (classifier : Value) : (renderAll extension classifier templates).Repeats r id := by
  have hall := Step.Repeats.mapM templates
    (fun template hmem => renderTemplate_repeats hr (htemplates template hmem) extension classifier)
    (renderTemplate_reports extension classifier)
  have hsame : (fun results : List Rendered => results.flatMap fun result => [result]) = id :=
    funext fun results => List.flatMap_singleton' results
  rwa [hsame] at hall

theorem findAll_repeats {platform base : Path} {stereotype : Option String} {extension : String}
    (hsearch : (⟨base, stereotype, extension⟩ : Search).Steady platform r.sees w) (classifier : Value) :
    Step.Repeats r (do
      let templates ← find platform base stereotype extension
      renderAll extension classifier templates) id :=
  .aside_bind_of hr (find_keeps _ _ _ _) (find_mirrors hsearch)
    (fun _ _ _ hrun _ hfind => find_steady hsearch hrun hfind)
    fun _ htemplates => renderAll_repeats hr htemplates extension classifier

end

/-! The stages of a run. -/

theorem Loader.load_aside (loader : Loader) : loader.load.Keeps Aside :=
  .bind .get fun _ => .lift _

theorem prepare_model {conduct : Conduct} {sources : Sources} {options : Settings.Options}
    {loader : Loader} {run after : Run} {prepared : Model × List Nat}
    (hrun : (prepare conduct sources options loader.load).run run = (.ok prepared, after)) :
    loader run.desk.workspace run.desk.levels = .ok prepared.1 := by
  rw [prepare, Stateful.run_bind_ok (run_enter _ _)] at hrun
  obtain ⟨m, _, hload, hrun⟩ := Stateful.bind_ok_iff.mp hrun
  rw [Loader.run_load] at hload
  rw [Stateful.run_bind_ok (Stateful.run_get _)] at hrun
  obtain ⟨_, _, _, hrun⟩ := Stateful.bind_ok_iff.mp hrun
  obtain ⟨_, _, _, hrun⟩ := Stateful.bind_ok_iff.mp hrun
  obtain ⟨_, _, _, hrun⟩ := Stateful.bind_ok_iff.mp hrun
  obtain ⟨_, _, _, hrun⟩ := Stateful.bind_ok_iff.mp hrun
  obtain ⟨_, _, _, hrun⟩ := Stateful.bind_ok_iff.mp hrun
  obtain ⟨_, _, _, hrun⟩ := Stateful.bind_ok_iff.mp hrun
  obtain ⟨_, _, _, hlast⟩ := Stateful.bind_ok_iff.mp hrun
  cases hlast
  exact congrArg Prod.fst hload

section

variable {r : Rerun} {sources : Sources} {options : Settings.Options} {loader : Loader} {m : Model}
  {w : Workspace} {conduct : Conduct} (hr : r.Steady) (hconduct : conduct.Blind)
  (hsees : ∀ seen, r.sees seen → sources.Sees loader m w seen)
include hr hconduct hsees

theorem processClass_repeats (projectScripts : List Nat) {i j : Nat} (hoccasion : (i, j) ∈ occasions m) :
    (processClass conduct sources projectScripts m i j).Repeats r id := by
  have hscripts := fun scripts => runScripts_keeps (Aside.keptByHooks conduct) scripts m i j
  have hmirrors : ∀ scripts, (runScripts conduct scripts m i j).Mirrors r.sees :=
    fun scripts => runScripts_mirrors hconduct scripts m i j
  have hsearch : ∀ extension,
      extension = sources.scriptExtension ∨ extension = sources.templateExtension →
      (⟨sources.platform, some ((Entity.stereotype i j).name m), extension⟩ : Search).Steady
        sources.platform r.sees w := by
    intro extension hextension seen hseen
    refine (hsees seen hseen).search _ (List.mem_append_right _ ?_)
    refine List.mem_flatMap.mpr ⟨(i, j), hoccasion, ?_⟩
    rcases hextension with rfl | rfl <;> simp
  refine .aside_bind hr (.say _ _ _) (.say _ _ _) fun _ => .aside_bind hr context_keeps .context fun _ => ?_
  refine .aside_bind hr (.setContext _) (.setContext _) fun _ => ?_
  refine .aside_bind hr (hscripts _) (hmirrors _) fun _ => ?_
  refine .aside_bind hr (loadScripts_keeps Aside.keptByLoading _ _ _ _)
    (loadScripts_mirrors (hsearch _ (.inl rfl))) fun scripts => ?_
  refine .aside_bind hr (hscripts scripts) (hmirrors scripts) fun _ => ?_
  exact findAll_repeats hr (hsearch _ (.inr rfl)) _

theorem processProject_repeats (projectScripts : List Nat) :
    (processProject conduct sources projectScripts).Repeats r id := by
  have hsearch : (⟨sources.platform, none, sources.templateExtension⟩ : Search).Steady sources.platform
      r.sees w := fun seen hseen => (hsees seen hseen).search _ (by simp [Sources.searches])
  refine .aside_bind hr (.enter _) (.enter _) fun _ => .aside_bind hr context_keeps .context fun _ => ?_
  refine .aside_bind hr (.setContext _) (.setContext _) fun _ => ?_
  refine .aside_bind hr (runLifecycles_keeps (Aside.keptByHooks conduct) projectScripts _)
    (runLifecycles_mirrors hconduct projectScripts _) fun _ => ?_
  exact .aside_bind hr (.enter _) (.enter _) fun _ => findAll_repeats hr hsearch _

theorem runStages_repeats (hmodel : loader w r.levels = .ok m) :
    (runStages conduct sources options loader.load).Repeats r id := by
  refine .aside_bind_of (Q := fun prepared => prepared.1 = m) hr
    (prepare_aside conduct sources options loader.load_aside) ((prepare_mirrors hconduct).mono hsees)
    ?_ fun (_, scripts) hsame => ?_
  · intro run prepared after hrun hlevels hprepare
    have hprepared := prepare_model hprepare
    rw [(hsees _ hrun).model, hlevels, hmodel] at hprepared
    exact (Except.ok.inj hprepared).symm
  · obtain rfl := hsame
    refine .aside_bind hr (.enter _) (.enter _) fun _ => ?_
    refine .both (.mapM _ (fun (i, j) hoccasion =>
        processClass_repeats hr hconduct hsees scripts hoccasion)
      fun (i, j) => processClass_reports conduct sources scripts _ i j)
      (processProject_repeats hr hconduct hsees scripts)
      (processProject_reports conduct sources scripts) fun forClasses forProject => ?_
    rw [List.flatMap_id]
    rfl

end

theorem conclude_isOk_iff {sources : Sources} {templates : List Rendered} {run : Run} :
    ((conclude sources templates).run run).1.isOk = true ↔
      (run.scripts.length + templates.length = 0 →
        (Log.pipelineLogger.say run.desk.levels .warning
          s!"No scripts or templates found for platform {sources.platform}").isOk = true) := by
  rw [conclude, Stateful.run_bind_ok (run_enter _ _), Stateful.run_bind_ok (Stateful.run_get _)]
  dsimp only
  split
  · rename_i hnone
    have hnone : run.scripts.length + templates.length = 0 := hnone
    rw [Stateful.run_bind, run_say]
    cases Log.pipelineLogger.say _ _ _ with
    | error failure => simp [hnone, Except.isOk, Except.toBool]
    | ok u => simp [Except.isOk, Except.toBool]
  · rename_i hsome
    have hsome : ¬ run.scripts.length + templates.length = 0 := hsome
    exact iff_of_true rfl fun hnone => absurd hnone hsome

theorem conclude_again {sources : Sources} {templates templates' : List Rendered} {run after : Run}
    {report : Report} (other : Run)
    (hrun : (conclude sources templates).run run = (.ok report, after))
    (hscripts : other.scripts = run.scripts) (hlevels : other.desk.levels = run.desk.levels)
    (hlength : templates'.length = templates.length) :
    ∃ report' finish, (conclude sources templates').run other = (.ok report', finish) ∧
      report'.templates = templates' ∧ finish.desk = other.desk := by
  have hconcluded : ((conclude sources templates).run run).1.isOk = true := by
    rw [hrun]
    rfl
  -- As much was found, so that the log is given the same message or none.
  rw [conclude_isOk_iff, ← hscripts, ← hlevels, ← hlength, ← conclude_isOk_iff] at hconcluded
  rcases hother : (conclude sources templates').run other with ⟨outcome, finish⟩
  rw [hother] at hconcluded
  cases outcome with
  | error failure => cases hconcluded
  | ok report' =>
      exact ⟨report', finish, rfl, (conclude_ok hother).1,
        ((conclude_deskKept _ _).of_run hother).desk⟩

section

variable {conduct : Conduct} {sources : Sources} {options : Settings.Options} {loader : Loader}
  {m : Model} {w : Workspace} {registry : Mixin.Registry} {levels : Log.Levels} {report : Report}
  {after : Run}

theorem runPipeline_again (hw : w.Rooted) (hconduct : conduct.Blind) (hmodel : loader w levels = .ok m)
    (hrun : (runPipeline sources options loader.load conduct).run (.start w registry levels) =
      (.ok report, after))
    (hsees : ∀ seen ∈ Output.moments w levels report.parcels ++
        Output.moments (Output.settled w levels report.parcels) levels report.parcels,
      sources.Sees loader m w seen)
    (hlog : ∀ parcel ∈ report.parcels, parcel.mode = .preserve →
      Log.outputLogger.say levels .debug s!"Preserving existing file {parcel.address}" = .ok ()) :
    after.desk.workspace = Output.settled w levels report.parcels ∧
    ∃ report' finish, (runPipeline sources options loader.load conduct).run
        (.start after.desk.workspace registry levels) = (.ok report', finish) ∧
      report'.parcels = report.parcels ∧
      ∀ place, finish.desk.workspace.tree.get? place = after.desk.workspace.tree.get? place ∨
        (Output.standing w place (receipts report.templates)).isDiverted = true ∧
          (∃ content, after.desk.workspace.tree.get? place = some (.file content)) ∧
          ∃ content, finish.desk.workspace.tree.get? place = some (.file content) := by
  obtain ⟨templates, last, hstages, hconclude⟩ := runPipeline_ok_iff.mp hrun
  obtain ⟨rfl, _⟩ := conclude_ok hconclude
  have hafter : after.desk.workspace = last.desk.closed :=
    congrArg (·.workspace) ((conclude_deskKept _ _).of_run hconclude).desk
  let r : Rerun := ⟨w, levels, receipts report.templates, last.desk, sources.Sees loader m w⟩
  have hsent : r.sent.map (·.parcel) = report.parcels := map_parcel_receipts _
  have hsettled : Output.settled w levels report.parcels = r.settled := by
    rw [← hsent]
    exact (runStages_reports conduct sources options loader.load_aside _ _ _ hstages).settled
  rw [hafter, hsettled]
  refine ⟨rfl, ?_⟩
  have hr : r.Steady := by
    refine ⟨hw, fun seen hseen => ?_, fun seen hseen => ?_, fun receipt hreceipt => ?_⟩
    · exact hsees seen (List.mem_append_left _ (hsent ▸ hseen))
    · exact hsees seen (List.mem_append_right _ (hsettled ▸ hsent ▸ hseen))
    · exact hlog receipt.parcel (hsent ▸ List.mem_map_of_mem hreceipt)
  obtain ⟨templates', again, journal, hstages', hsame, hkeeps⟩ :=
    runStages_repeats hr hconduct (fun _ h => h) hmodel [] [] _ last report.templates r.settled []
      (Rerun.Keeps.start r) hstages .nothing (List.append_nil _)
  have hlength : templates'.length = report.templates.length := by
    have hlengths := congrArg List.length hsame
    rwa [List.length_map, List.length_map] at hlengths
  let flushed : Run := { last.on again journal with stages := last.stages ++ [.flushAggregates] }
  obtain ⟨report', finish, hconclude', htemplates, hdesk⟩ :=
    conclude_again flushed.closed hconclude rfl rfl hlength
  have hworkspace : finish.desk.workspace = last.desk.aggregates.closeAll again :=
    congrArg (·.workspace) hdesk
  refine ⟨report', finish, ?_, ?_, fun place => ?_⟩
  · exact runPipeline_ok_iff.mpr ⟨templates', last.on again journal, hstages', hconclude'⟩
  · rw [Report.parcels, htemplates]
    exact hsame
  · rw [hworkspace]
    exact hkeeps.echoes.closed (hkeeps.first.sent rfl hw) place

end

namespace Pipeline

theorem setUp_eq_ok_iff {home : Place} {w : Workspace} {options : Settings.Options} {pipeline : Pipeline} :
    setUp home w options = .ok pipeline ↔
      ∃ sources, Sources.choose home w options = .ok sources ∧ pipeline = { sources, options } := by
  rw [setUp]
  cases Sources.choose home w options with
  | error failure => simp [bind, Except.bind]
  | ok sources => simp [bind, Except.bind, pure, Except.pure, eq_comm]

theorem execute_eq (pipeline : Pipeline) (loader : Loader) (w : Workspace) (registry : Mixin.Registry)
    (levels : Log.Levels) (conduct : Conduct) :
    let execution := pipeline.execute loader w registry levels (.ofPlugins pipeline.sources conduct)
    (execution.outcome, execution.run) =
      (runPipeline pipeline.sources pipeline.options loader.load conduct).run
        (.start w registry levels) :=
  go_ofPlugins pipeline conduct loader.load _

/-- Setting a pipeline up and running it again, on the files that a run which succeeded left, succeeds
and sends the same, as long as what is read is the same at every moment of both runs. Every file holds
what it held after the first run, unless it was sent a body to preserve that went over another body of
the same run. -/
theorem execute_again {home : Place} {options : Settings.Options} {pipeline : Pipeline} {loader : Loader}
    {w : Workspace} {registry : Mixin.Registry} {levels : Log.Levels} {conduct : Conduct}
    {first : Execution} {report : Report} (hw : w.Rooted) (hconduct : conduct.Blind)
    (hsetUp : setUp home w options = .ok pipeline)
    (hfirst : first = pipeline.execute loader w registry levels (.ofPlugins pipeline.sources conduct))
    (hreport : first.outcome = .ok report)
    (hreads : ∀ seen ∈ Output.moments w levels report.parcels ++
        Output.moments (Output.settled w levels report.parcels) levels report.parcels,
      sight home options loader levels seen = sight home options loader levels w)
    (hlog : ∀ parcel ∈ report.parcels, parcel.mode = .preserve →
      Log.outputLogger.say levels .debug s!"Preserving existing file {parcel.address}" = .ok ()) :
    setUp home first.run.desk.workspace options = .ok pipeline ∧
    let second := pipeline.execute loader first.run.desk.workspace registry levels
      (.ofPlugins pipeline.sources conduct)
    ∃ report', second.outcome = .ok report' ∧ report'.parcels = report.parcels ∧
      ∀ place, second.run.desk.workspace.tree.get? place = first.run.desk.workspace.tree.get? place ∨
        (Output.standing w place (receipts report.templates)).isDiverted = true ∧
          (∃ content, first.run.desk.workspace.tree.get? place = some (.file content)) ∧
          ∃ content, second.run.desk.workspace.tree.get? place = some (.file content) := by
  have hrun : (runPipeline pipeline.sources pipeline.options loader.load conduct).run
      (.start w registry levels) = (.ok report, first.run) := by
    rw [← execute_eq, ← hfirst, hreport]
  obtain ⟨sources, hsources, rfl⟩ := setUp_eq_ok_iff.mp hsetUp
  obtain ⟨m, hmodel⟩ : ∃ m, loader w levels = .ok m := by
    obtain ⟨_, _, hstages, _⟩ := runPipeline_ok_iff.mp hrun
    obtain ⟨prepared, _, hprepare, _⟩ := Stateful.bind_ok_iff.mp hstages
    exact ⟨prepared.1, prepare_model hprepare⟩
  have hsees := fun seen hseen => (sight_eq_iff hsources hmodel).mp (hreads seen hseen)
  obtain ⟨hsettled, report', finish, hagain, hsame, hfiles⟩ :=
    runPipeline_again hw hconduct hmodel hrun (fun seen hseen => (hsees seen hseen).2) hlog
  have hchosen : Sources.choose home first.run.desk.workspace options = .ok sources :=
    (hsees _ (List.mem_append_right _ (hsettled ▸ Output.mem_moments_start _ _ _))).1
  have hexecute := execute_eq { sources, options } loader first.run.desk.workspace registry levels conduct
  rw [hagain, Prod.mk.injEq] at hexecute
  refine ⟨setUp_eq_ok_iff.mpr ⟨sources, hchosen, rfl⟩, report', hexecute.1, hsame, ?_⟩
  rw [hexecute.2]
  exact hfiles

/-! A template of the project that is to preserve its file, before and after the file is there. -/

def preserving (entries : List (Place × Entry Content)) : Workspace where
  tree := ⟨[(["r"], .directory), (["r", "p"], .directory),
    (["r", "p", "t.j2"], .file (.bytes "##output preserve f\ny".toUTF8))] ++ entries⟩
  directory := ["r"]

def preserved : Workspace := preserving [(["r", "f"], .file (.bytes "y".toUTF8))]

def relativeOptions : Settings.Options :=
  { platformDirectory := some (.ofString "p"), globalPlugins := some (.ofString "g") }

def preservingPipeline : Pipeline := { sources := relativeSources, options := relativeOptions }

/-- What is read of it: the template, and no plugins. -/
def preservingReads (template : Path) (w : Workspace) : List Search.Finding :=
  List.replicate 5 ⟨.ok none, .ok [], .ok []⟩ ++ [⟨.ok none, .ok [template], .ok [contentOf w template]⟩]

theorem sight_preserved :
    sight [] relativeOptions (.given {}) {} preserved =
      sight [] relativeOptions (.given {}) {} (preserving []) := by
  let template := Path.ofString "p/t.j2"
  have hbefore : (relativeSources.searches {}).map (fun search =>
      search.find relativeSources.platform (preserving [])) = preservingReads template (preserving []) := by
    with_unfolding_all rfl
  have hafter : (relativeSources.searches {}).map (fun search =>
      search.find relativeSources.platform preserved) = preservingReads template preserved := by
    with_unfolding_all rfl
  have hpath : (preserving []).resolvePath template = .ok (.ofString "/r/p/t.j2") := by
    with_unfolding_all rfl
  have hcontent : contentOf preserved template = contentOf (preserving []) template := by
    refine contentOf_congr ?_ hpath ?_ ?_ <;> with_unfolding_all rfl
  have hplatform : preserved.isDirectory? relativeSources.platform =
      (preserving []).isDirectory? relativeSources.platform := by
    with_unfolding_all rfl
  have hreads : preservingReads template preserved = preservingReads template (preserving []) := by
    rw [preservingReads, hcontent]
    rfl
  have hsources : Sources.choose [] (preserving []) relativeOptions = .ok relativeSources := rfl
  have hmodel : Loader.given {} (preserving []) {} = .ok {} := rfl
  refine (sight_eq_iff hsources hmodel).mpr ⟨rfl, rfl, hplatform, ?_⟩
  exact List.map_inj_left.mp (hafter.trans (hreads.trans hbefore.symm))

def firstTime : Execution := preservingPipeline.execute (.given {}) (preserving []) .empty {}

def secondTime : Execution :=
  preservingPipeline.execute (.given {}) firstTime.run.desk.workspace .empty {}

/-- The first time creates the file and the second time leaves it. -/
theorem execute_again_preserved :
    secondTime.outcome.isOk = true ∧
      secondTime.run.desk.workspace.tree.get? ["r", "f"] =
        firstTime.run.desk.workspace.tree.get? ["r", "f"] := by
  have hsent : (firstTime.outcome.toOption.any fun report =>
      report.parcels = [⟨.preserve, "f", "y"⟩] ∧
        (Output.standing (preserving []) ["r", "f"] (receipts report.templates)).isDiverted = false) =
      true := by
    decide +kernel
  cases hreport : firstTime.outcome with
  | error failure =>
      rw [hreport] at hsent
      cases hsent
  | ok report =>
      rw [hreport] at hsent
      obtain ⟨hparcels, hstanding⟩ := of_decide_eq_true hsent
      have hmoments : Output.moments (preserving []) {} report.parcels = [preserving [], preserved] ∧
          Output.moments (Output.settled (preserving []) {} report.parcels) {} report.parcels =
            [preserved, preserved] := by
        rw [hparcels]
        constructor <;> with_unfolding_all rfl
      have hreads : ∀ seen ∈ Output.moments (preserving []) {} report.parcels ++
          Output.moments (Output.settled (preserving []) {} report.parcels) {} report.parcels,
          sight [] relativeOptions (.given {}) {} seen =
            sight [] relativeOptions (.given {}) {} (preserving []) := by
        rw [hmoments.1, hmoments.2]
        intro seen hseen
        have hseen : seen = preserving [] ∨ seen = preserved := by simpa using hseen
        rcases hseen with rfl | rfl
        · rfl
        · exact sight_preserved
      obtain ⟨_, _, houtcome, _, hfiles⟩ := execute_again (by decide +kernel) Conduct.ofPlugins_blind
        (show setUp [] (preserving []) relativeOptions = .ok preservingPipeline from rfl)
        (show firstTime = _ from rfl) hreport hreads (fun _ _ _ => rfl)
      refine ⟨congrArg Except.isOk houtcome, (hfiles ["r", "f"]).resolve_right ?_⟩
      rintro ⟨hdiverted, _⟩
      rw [hstanding] at hdiverted
      cases hdiverted

end Pipeline

end Codegen.Generation
