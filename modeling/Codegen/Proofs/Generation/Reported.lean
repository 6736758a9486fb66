import Codegen.Proofs.Generation.Shipping
import Codegen.Proofs.Output.Sending

/-! What a run that succeeds reports is what it delivered, template by template. -/

namespace Codegen.Generation

open Codegen.Files

def Rendered.receipt (result : Rendered) : Output.Receipt := ⟨result.parcel, result.written⟩

def receipts (results : List Rendered) : List Output.Receipt := results.map Rendered.receipt

def Report.parcels (report : Report) : List Output.Parcel := report.templates.map Rendered.parcel

theorem map_parcel_receipts (results : List Rendered) :
    (receipts results).map (·.parcel) = results.map Rendered.parcel :=
  List.map_map

/-- If the step succeeds, what it rendered leads from the desk before it to the desk after it. -/
def Step.Reports {α : Type} (step : Step α) (rendered : α → List Rendered) : Prop :=
  ∀ run after x, step.run run = (.ok x, after) →
    Output.Sends run.desk (receipts (rendered x)) after.desk

theorem Aside.sends {run after : Run} (h : Aside run after) : Output.Sends run.desk [] after.desk := by
  have hdesk : after.desk = { run.desk with context := after.desk.context } := by
    simp only [← h.workspace, ← h.aggregates, ← h.levels]
  rw [hdesk]
  exact .aside .nothing _

namespace Step.Reports

variable {α β : Type}

theorem aside_bind {step : Step α} {next : α → Step β} {rendered : β → List Rendered}
    (hstep : step.Keeps Aside) (hnext : ∀ x, (next x).Reports rendered) :
    (step >>= next).Reports rendered := by
  intro run after y hrun
  obtain ⟨x, middle, hfirst, hsecond⟩ := Stateful.bind_ok_iff.mp hrun
  exact (hstep.of_run hfirst).sends.trans (hnext x middle after y hsecond)

theorem both {γ : Type} {first : Step α} {second : Step β} {combine : α → β → γ}
    {rendered : α → List Rendered} {rendered' : β → List Rendered} {all : γ → List Rendered}
    (hfirst : first.Reports rendered) (hsecond : second.Reports rendered')
    (hall : ∀ x y, all (combine x y) = rendered x ++ rendered' y) :
    Step.Reports (do let x ← first; let y ← second; return combine x y) all := by
  intro run after z hrun
  obtain ⟨x, middle, hx, hrest⟩ := Stateful.bind_ok_iff.mp hrun
  obtain ⟨y, last, hy, hlast⟩ := Stateful.bind_ok_iff.mp hrest
  cases hlast
  rw [hall, receipts, List.map_append]
  exact (hfirst run middle x hx).trans (hsecond middle after y hy)

theorem mapM {step : α → Step β} {rendered : β → List Rendered} (xs : List α)
    (hstep : ∀ x, (step x).Reports rendered) :
    (xs.mapM step).Reports fun ys => ys.flatMap rendered := by
  induction xs with
  | nil =>
      intro run after ys hrun
      cases hrun
      exact .nothing
  | cons x rest ih =>
      rw [List.mapM_cons]
      exact both (hstep x) ih fun y ys => List.flatMap_cons

end Step.Reports

theorem renderTemplate_reports (extension : String) (classifier : Value) (template : Path) :
    (renderTemplate extension classifier template).Reports fun result => [result] := by
  intro run after result hrun
  have hcomposed := compose_keeps extension classifier template run
  have hends := renderingEnds extension classifier template run
  rw [hrun] at hends
  cases hends with
  | rendered parcel isExplicit middle hcompose written desk hdelivery _ hparcel htemplate hwritten =>
      rw [hcompose] at hcomposed
      have hdelivers := Output.delivers_of_run hdelivery
      rw [← hparcel, ← hwritten] at hdelivers
      exact hcomposed.aside.sends.next hdelivers

theorem renderAll_reports (extension : String) (classifier : Value) (templates : List Path) :
    (renderAll extension classifier templates).Reports id := by
  have hall := Step.Reports.mapM templates (renderTemplate_reports extension classifier)
  have hsame : (fun results : List Rendered => results.flatMap fun result => [result]) = id :=
    funext fun results => List.flatMap_singleton' results
  rwa [hsame] at hall

theorem processClass_reports (conduct : Conduct) (sources : Sources) (projectScripts : List Nat)
    (m : Model) (i j : Nat) : (processClass conduct sources projectScripts m i j).Reports id := by
  have hscripts : ∀ scripts, (runScripts conduct scripts m i j).Keeps Aside := fun scripts =>
    runScripts_keeps (Aside.keptByHooks conduct) scripts m i j
  refine .aside_bind (.say _ _ _) fun _ => .aside_bind context_keeps fun context => ?_
  refine .aside_bind (.setContext _) fun _ => .aside_bind (hscripts _) fun _ => ?_
  refine .aside_bind (loadScripts_keeps Aside.keptByLoading _ _ _ _) fun scripts => ?_
  refine .aside_bind (hscripts scripts) fun _ => ?_
  exact .aside_bind (find_keeps _ _ _ _) fun templates => renderAll_reports _ _ templates

theorem processProject_reports (conduct : Conduct) (sources : Sources) (projectScripts : List Nat) :
    (processProject conduct sources projectScripts).Reports id := by
  refine .aside_bind (.enter _) fun _ => .aside_bind context_keeps fun context => ?_
  refine .aside_bind (.setContext _) fun _ => ?_
  refine .aside_bind (runLifecycles_keeps (Aside.keptByHooks conduct) projectScripts _) fun _ => ?_
  refine .aside_bind (.enter _) fun _ => .aside_bind (find_keeps _ _ _ _) fun templates => ?_
  exact renderAll_reports _ _ templates

theorem runStages_reports (conduct : Conduct) (sources : Sources) (options : Settings.Options)
    {load : Step Model} (hload : load.Keeps Aside) :
    (runStages conduct sources options load).Reports id := by
  refine .aside_bind (prepare_aside conduct sources options hload) fun (m, scripts) => ?_
  refine .aside_bind (.enter _) fun _ => ?_
  refine .both (.mapM _ fun (i, j) => processClass_reports conduct sources scripts m i j)
    (processProject_reports conduct sources scripts) fun forClasses forProject => ?_
  rw [List.flatMap_id]
  rfl

theorem conclude_ok {sources : Sources} {templates : List Rendered} {run after : Run}
    {report : Report} (hrun : (conclude sources templates).run run = (.ok report, after)) :
    report.templates = templates ∧ report.context = run.desk.context := by
  rw [conclude, Stateful.run_bind_ok (run_enter _ run), Stateful.run_bind_ok (Stateful.run_get _)] at hrun
  dsimp only at hrun
  split at hrun
  · obtain ⟨_, _, _, hlast⟩ := Stateful.bind_ok_iff.mp hrun
    cases hlast
    exact ⟨rfl, rfl⟩
  · cases hrun
    exact ⟨rfl, rfl⟩

theorem runPipeline_sends {conduct : Conduct} {sources : Sources} {options : Settings.Options}
    {load : Step Model} (hload : load.Keeps Aside) {start after : Run} {report : Report}
    (hrun : (runPipeline sources options load conduct).run start = (.ok report, after)) :
    ∃ last, Output.Sends start.desk (receipts report.templates) last ∧
      after.desk.workspace = last.aggregates.closeAll last.workspace := by
  obtain ⟨templates, last, hstages, hconclude⟩ := runPipeline_ok_iff.mp hrun
  have hkept := (conclude_deskKept sources templates).of_run hconclude
  obtain ⟨rfl, _⟩ := conclude_ok hconclude
  have hsends := runStages_reports conduct sources options hload _ _ _ hstages
  exact ⟨last.desk, hsends, congrArg (·.workspace) hkept.desk⟩

end Codegen.Generation
