import Codegen.Generation.Pipeline
import Codegen.Proofs.Generation.Request

/-! Relations between runs that are kept by loading plugins and by calling hooks. -/

namespace Codegen.Generation

open Codegen.Files Codegen.Plugin

variable {R : Run → Run → Prop}

/-- Relations that hold between the run before plugins are loaded and the run after it. A script is
loaded from a file of which there is none yet. -/
structure KeptByLoading (R : Run → Run → Prop) : Prop where
  engine : ∀ run engine, R run { run with engine }
  script : ∀ run (script : Script), (∀ loaded ∈ run.scripts, loaded.path ≠ script.path) →
    script.executed = [] → R run { run with scripts := run.scripts ++ [script] }

/-! Steps that only look at the run. -/

theorem run_workspace (run : Run) : workspace.run run = (.ok run.desk.workspace, run) := rfl

theorem run_context (run : Run) : context.run run = (.ok run.desk.context, run) := rfl

theorem workspace_keeps [Std.Refl R] : workspace.Keeps R := .of_idle fun _ => rfl

theorem context_keeps [Std.Refl R] : context.Keeps R := .of_idle fun _ => rfl

theorem absolutePath_keeps [IsPreorder Run R] (file : Path) : (absolutePath file).Keeps R :=
  .bind workspace_keeps fun _ => .lift _

theorem run_importPlugin (file : Path) (run : Run) :
    (importPlugin file).run run = (imported run.desk.workspace file, run) := by
  rw [importPlugin, Stateful.run_bind_ok (run_workspace run), Step.run_lift]

theorem importPlugin_keeps [IsPreorder Run R] (file : Path) : (importPlugin file).Keeps R :=
  .bind workspace_keeps fun _ => .lift _

theorem run_find (platform base : Path) (stereotype : Option String) (extension : String) (run : Run) :
    (find platform base stereotype extension).run run =
      (Platform.resolve run.desk.workspace run.desk.levels platform base stereotype extension, run) := by
  rw [find, Stateful.run_bind_ok (Stateful.run_get run), Stateful.run_bind_ok (run_workspace run), Step.run_lift]

theorem find_keeps [IsPreorder Run R] (platform base : Path) (stereotype : Option String)
    (extension : String) : (find platform base stereotype extension).Keeps R :=
  .bind .get fun _ => .bind workspace_keeps fun _ => .lift _

/-! Loading. -/

section

variable [IsPreorder Run R] (hengine : ∀ run engine, R run { run with engine })
include hengine

theorem loadHelpers_keeps (platform base : Path) (extension : String) :
    (loadHelpers platform base extension).Keeps R := by
  refine .bind (.say _ _ _) fun _ => .bind (find_keeps _ _ _ _) fun files => .mapM _ ?_
  intro file _
  refine .bind (absolutePath_keeps file) fun path => .bind (importPlugin_keeps path) fun plugin => ?_
  refine .bind (.lift _) fun helper => ?_
  split
  · refine .bind ?_ fun _ => .pure _
    exact fun run => hengine run _
  · exact .throw _

theorem loadPartials_keeps (platform base : Path) (extension : String) :
    (loadPartials platform base extension).Keeps R := by
  refine .bind (.say _ _ _) fun _ => .bind (find_keeps _ _ _ _) fun files => .mapM _ ?_
  intro file _
  refine .bind workspace_keeps fun w => .bind (.lift _) fun source => .bind ?_ fun _ => .pure _
  exact fun run => hengine run _

end

/-- What loading a script comes to, before the message about it. -/
inductive Attempt
  | unresolved (failure : Failure)
  | found (number : Nat)
  | refused (failure : Failure)
  /-- The module has been executed to its end. -/
  | completed (script : Script)

def attempt (file : Path) (run : Run) : Attempt :=
  match run.desk.workspace.resolvePath file with
  | .error failure => .unresolved failure
  | .ok path =>
    match run.scripts.findIdx? (·.path = path) with
    | some number => .found number
    | none =>
      match ((importPlugin path).run run).1 with
      | .error failure => .refused failure
      | .ok plugin => .completed { name := path.stem, path, plugin }

/-- What comes of the message about a script that has been loaded. -/
def tell (script : Script) (run : Run) : Except Failure Unit :=
  let hooks := if script.hooks.isEmpty then "none" else Text.join ", " script.hooks
  Log.pluginsLogger.say run.desk.levels .debug s!"Loaded script {script.path} (hooks: {hooks})"

theorem run_loadScript (file : Path) (run : Run) :
    (loadScript file).run run =
      match attempt file run with
      | .unresolved failure => (.error failure, run)
      | .found number => (.ok number, run)
      | .refused failure => (.error failure, run)
      | .completed script =>
        ((tell script run).map fun _ => run.scripts.length,
          { run with scripts := run.scripts ++ [script] }) := by
  rw [loadScript, Stateful.run_bind, attempt]
  have habsolute : (absolutePath file).run run = (run.desk.workspace.resolvePath file, run) := by
    rw [absolutePath, Stateful.run_bind_ok (run_workspace run), Step.run_lift]
  rw [habsolute]
  cases hpath : run.desk.workspace.resolvePath file with
  | error failure => rfl
  | ok path =>
      simp only [Stateful.run_bind, Stateful.run_get]
      cases hfind : run.scripts.findIdx? (·.path = path) with
      | some number => rfl
      | none =>
          have hidle := importPlugin_keeps (R := Eq) path run
          simp only [Stateful.run_bind]
          rcases himported : (importPlugin path).run run with ⟨outcome, after⟩
          rw [himported] at hidle
          obtain rfl : run = after := hidle
          cases outcome with
          | error failure => rfl
          | ok plugin =>
              simp only [Stateful.run_modify, run_say, tell]
              cases Log.pluginsLogger.say _ _ _ <;> rfl

/-- How a script comes to be loaded: its number, and the run after that. -/
inductive Loaded (file : Path) (run : Run) : Except Failure Nat × Run → Prop
  | failed (failure : Failure) : Loaded file run (.error failure, run)
  | known (number : Nat) (script : Script) (hscript : run.scripts[number]? = some script)
      (hpath : run.desk.workspace.resolvePath file = .ok script.path) :
      Loaded file run (.ok number, run)
  | new (script : Script) (hpath : run.desk.workspace.resolvePath file = .ok script.path)
      (hfresh : ∀ loaded ∈ run.scripts, loaded.path ≠ script.path) (hexecuted : script.executed = [])
      (outcome : Except Failure Nat)
      (houtcome : ∀ number, outcome = .ok number → number = run.scripts.length) :
      Loaded file run (outcome, { run with scripts := run.scripts ++ [script] })

theorem attempt_found {file : Path} {run : Run} {number : Nat} (h : attempt file run = .found number) :
    ∃ script, run.scripts[number]? = some script ∧
      run.desk.workspace.resolvePath file = .ok script.path := by
  rw [attempt] at h
  cases hpath : run.desk.workspace.resolvePath file with
  | error failure => rw [hpath] at h; cases h
  | ok path =>
      rw [hpath] at h
      dsimp only at h
      split at h
      · rename_i found hfind
        cases h
        obtain ⟨hnumber, hsame, _⟩ := List.findIdx?_eq_some_iff_getElem.mp hfind
        have hsame : (run.scripts[number]).path = path := by simpa using hsame
        exact ⟨run.scripts[number], List.getElem?_eq_getElem hnumber, by rw [hsame]⟩
      · split at h <;> cases h

theorem attempt_completed {file : Path} {run : Run} {script : Script}
    (h : attempt file run = .completed script) :
    run.desk.workspace.resolvePath file = .ok script.path ∧
      (∀ loaded ∈ run.scripts, loaded.path ≠ script.path) ∧ script.executed = [] := by
  rw [attempt] at h
  cases hpath : run.desk.workspace.resolvePath file with
  | error failure => rw [hpath] at h; cases h
  | ok path =>
      rw [hpath] at h
      dsimp only at h
      split at h
      · cases h
      · rename_i hfind
        split at h
        · cases h
        · cases h
          exact ⟨rfl, by simpa using hfind, rfl⟩

theorem loaded (file : Path) (run : Run) : Loaded file run ((loadScript file).run run) := by
  rw [run_loadScript]
  cases hattempt : attempt file run with
  | unresolved failure => exact .failed failure
  | found number =>
      obtain ⟨script, hscript, hpath⟩ := attempt_found hattempt
      exact .known number script hscript hpath
  | refused failure => exact .failed failure
  | completed script =>
      obtain ⟨hpath, hfresh, hexecuted⟩ := attempt_completed hattempt
      refine .new script hpath hfresh hexecuted _ fun number h => ?_
      cases htell : tell script run with
      | error failure => rw [htell] at h; cases h
      | ok u => rw [htell] at h; cases h; rfl

theorem loadScript_keeps [IsPreorder Run R] (hkept : KeptByLoading R) (file : Path) :
    (loadScript file).Keeps R := by
  intro run
  have hloaded := loaded file run
  generalize (loadScript file).run run = result at hloaded
  cases hloaded with
  | failed failure => exact refl_of R run
  | known number script hscript hpath => exact refl_of R run
  | new script hpath hfresh hexecuted outcome houtcome => exact hkept.script run script hfresh hexecuted

theorem loadScripts_keeps [IsPreorder Run R] (hkept : KeptByLoading R) (platform base : Path)
    (stereotype : Option String) (extension : String) :
    (loadScripts platform base stereotype extension).Keeps R :=
  .bind (find_keeps _ _ _ _) fun _ => .mapM _ fun file _ => loadScript_keeps hkept file

/-! Hooks that the run itself comes to. -/

/-- Relations kept by every hook that the run comes to, and by what the hook asks for. -/
structure KeptByHooks (conduct : Conduct) (R : Run → Run → Prop) : Prop
    extends KeptByRequests conduct R where
  due : ∀ run request value, R run (run.recording (.due request value))
  called : ∀ run number hook, R run (run.recording (.called number hook))
  report : ∀ run missed advisories, R run { run with missed, advisories }

theorem scriptAt_keeps [IsPreorder Run R] (number : Nat) : (scriptAt number).Keeps R := by
  refine .bind .get fun run => ?_
  split
  · exact .pure _
  · exact .throw _

theorem recordMissing_keeps {conduct : Conduct} (hkept : KeptByHooks conduct R) (script : Script)
    (hook : String) : (recordMissing script hook).Keeps R := by
  intro run
  obtain ⟨outcome, missed, advisories, hrun⟩ := exists_run_recordMissing script hook run
  rw [hrun]
  exact hkept.report run missed advisories

section

variable [IsPreorder Run R] {conduct : Conduct} (hkept : KeptByHooks conduct R)
include hkept

theorem runOnce_keeps (number : Nat) (kind name : String) (value : Value) :
    (runOnce number kind name value conduct).Keeps R := by
  refine .bind ?_ fun _ => .bind .get fun run => answer_keeps hkept.toKeptByRequests _ _ value
  exact fun run => hkept.due run _ value

theorem runScripts_keeps (scripts : List Nat) (m : Model) (i j : Nat) :
    (runScripts conduct scripts m i j).Keeps R :=
  .forM scripts fun number _ =>
    .bind (runOnce_keeps hkept number _ _ _) fun _ =>
      .bind (runOnce_keeps hkept number _ _ _) fun _ => .pure ()

theorem callScript_keeps (number : Nat) (hook : String) (args : List Value) :
    (callScript number hook args conduct).Keeps R := by
  refine .bind (scriptAt_keeps number) fun script => ?_
  split
  · exact .pure _
  · refine .bind ?_ fun _ => .bind .get fun run => .bind ?_ fun _ => .pure _
    · exact fun run => hkept.called run number hook
    · exact Course.follow_keeps hkept.share
        (fun request value => answer_keeps hkept.toKeptByRequests _ request value) _

theorem runLifecycle_keeps (number : Nat) (hook : String) :
    (runLifecycle number hook conduct).Keeps R := by
  refine .bind (scriptAt_keeps number) fun script => ?_
  split
  · exact .bind (recordMissing_keeps hkept script hook) fun _ => .pure _
  · exact .bind (.say _ _ _) fun _ => callScript_keeps hkept number hook []

theorem runLifecycles_keeps (numbers : List Nat) (hook : String) :
    Step.Keeps R (numbers.forM fun number => do
      let _ ← runLifecycle number hook conduct) :=
  .forM numbers fun number _ => .bind (runLifecycle_keeps hkept number hook) fun _ => .pure ()

end

/-! The stages in which plugins are loaded. -/

section

variable [IsPreorder Run R] (sources : Sources)

theorem loadGlobals_keeps (hengine : ∀ run engine, R run { run with engine }) :
    (loadGlobals sources).Keeps R :=
  .bind (loadHelpers_keeps hengine _ _ _) fun _ =>
    .bind (loadPartials_keeps hengine _ _ _) fun _ => .pure ()

theorem checkPlatform_keeps : (checkPlatform sources).Keeps R := by
  refine .bind workspace_keeps fun w => .bind (.lift _) fun isDirectory => ?_
  split
  · exact .pure _
  · exact .say _ _ _

theorem loadPlatform_keeps {conduct : Conduct} (hhooks : KeptByHooks conduct R)
    (hloading : KeptByLoading R) : (loadPlatform conduct sources).Keeps R := by
  refine .bind (checkPlatform_keeps sources) fun _ => .bind .get fun run => ?_
  refine .bind (.say _ _ _) fun _ => ?_
  refine .bind (loadScripts_keeps hloading _ _ _ _) fun scripts => ?_
  refine .bind (runLifecycles_keeps hhooks scripts _) fun _ => ?_
  refine .bind (loadHelpers_keeps hloading.engine _ _ _) fun _ => ?_
  exact .bind (loadPartials_keeps hloading.engine _ _ _) fun _ => .pure _

end

end Codegen.Generation
