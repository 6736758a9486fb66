import Codegen.Proofs.Distinct
import Codegen.Proofs.Generation.Work

/-! Loading scripts again and again. However a file is spelled, it is executed to its end once at most,
and every load of it after that answers the same script with what was recorded for it. -/

namespace Codegen.Generation

open Codegen.Files Codegen.Plugin

/-- A load of a script, by the run that it finds. -/
structure Load where
  before : Run
  file : Path

namespace Load

def outcome (l : Load) : Except Failure Nat := ((loadScript l.file).run l.before).1

def after (l : Load) : Run := ((loadScript l.file).run l.before).2

/-- The file that the load is of, once links and double dots are worked out. -/
def target? (l : Load) : Option Path := (l.before.desk.workspace.resolvePath l.file).toOption

/-- The file whose module the load has executed to its end. -/
def completed? (l : Load) : Option Path :=
  match attempt l.file l.before with
  | .completed script => some script.path
  | _ => none

/-- The file, if its module has been executed to its end by this load or before it. -/
def loaded? (l : Load) : Option Path :=
  match attempt l.file l.before with
  | .completed script => some script.path
  | .found _ => l.target?
  | _ => none

end Load

/-- The loads of files one after another, up to the first that fails. -/
def loadsOf : List Path → Run → List Load
  | [], _ => []
  | file :: rest, run =>
    ⟨run, file⟩ ::
      match (loadScript file).run run with
      | (.ok _, after) => loadsOf rest after
      | (.error _, _) => []

/-- A call that loads scripts. -/
inductive Call
  | script (file : Path)
  | scripts (platform base : Path) (stereotype : Option String) (extension : String)

namespace Call

def step : Call → Step (List Nat)
  | .script file => do return [← loadScript file]
  | .scripts platform base stereotype extension => loadScripts platform base stereotype extension

/-- The files that are to be loaded, by the names under which they are found. -/
def files : Call → Run → Except Failure (List Path)
  | .script file, _ => .ok [file]
  | .scripts platform base stereotype extension, run =>
    ((find platform base stereotype extension).run run).1.map
      (·.filter fun file => !isInternal file)

def loads (call : Call) (run : Run) : List Load :=
  match call.files run with
  | .error _ => []
  | .ok files => loadsOf files run

theorem run_step (call : Call) (run : Run) :
    call.step.run run =
      match call.files run with
      | .error failure => (.error failure, run)
      | .ok files => (files.mapM loadScript).run run := by
  cases call with
  | script file =>
      show (step (.script file)).run run = ([file].mapM loadScript).run run
      rw [List.mapM_cons]
      rfl
  | scripts platform base stereotype extension =>
      have hidle := find_keeps (R := Eq) platform base stereotype extension run
      rw [step, loadScripts, files, Stateful.run_bind]
      rcases hfind : (find platform base stereotype extension).run run with ⟨outcome, after⟩
      rw [hfind] at hidle
      obtain rfl : run = after := hidle
      cases outcome <;> rfl

end Call

/-- What a script is apart from what has been recorded for it. -/
def handle (script : Script) : Script := { script with executed := [] }

/-- The loads of a loader up to a run. Between the calls anything else may happen, files may change and
executions may be recorded, but scripts come and go by loading alone. -/
inductive History : List Load → Run → Prop
  | fresh {run : Run} (h : run.scripts = []) : History [] run
  | call {past : List Load} {run : Run} (h : History past run) (call : Call) :
      History (past ++ call.loads run) (call.step.run run).2
  | between {past : List Load} {run after : Run} (h : History past run)
      (hsame : after.scripts.map handle = run.scripts.map handle) : History past after

/-- What a run owes to the loads before it. -/
structure Accounts (past : List Load) (run : Run) : Prop where
  paths : run.scripts.map (·.path) = past.filterMap Load.completed?
  first : past.filterMap Load.completed? = (past.filterMap Load.loaded?).eraseDups
  known : ∀ l ∈ past, ∀ number, l.outcome = .ok number →
    ∃ path, l.target? = some path ∧ (run.scripts.map (·.path))[number]? = some path

namespace Accounts

variable {past : List Load} {run after : Run}

theorem mem_loaded_iff (h : Accounts past run) {path : Path} :
    path ∈ past.filterMap Load.loaded? ↔ path ∈ run.scripts.map (·.path) := by
  rw [h.paths, h.first, List.mem_eraseDups]

theorem idle (h : Accounts past run) {l : Load} (hcompleted : l.completed? = none)
    (hloaded : ∀ path, l.loaded? = some path → path ∈ run.scripts.map (·.path))
    (hknown : ∀ number, l.outcome = .ok number →
      ∃ path, l.target? = some path ∧ (run.scripts.map (·.path))[number]? = some path) :
    Accounts (past ++ [l]) run where
  paths := by
    rw [h.paths, List.filterMap_append]
    simp [hcompleted]
  first := by
    rw [List.filterMap_append, List.filterMap_append]
    cases hpath : l.loaded? with
    | none => simp [hcompleted, hpath, h.first]
    | some path =>
        simp only [List.filterMap_cons, List.filterMap_nil, hcompleted, hpath, List.append_nil]
        rw [eraseDups_concat, if_pos (h.mem_loaded_iff.mpr (hloaded path hpath)), h.first]
  known m hm := by
    rcases List.mem_append.mp hm with hm | hm
    · exact h.known m hm
    · rw [List.mem_singleton.mp hm]
      exact hknown

theorem load (h : Accounts past run) (file : Path) :
    Accounts (past ++ [⟨run, file⟩]) ((loadScript file).run run).2 := by
  have hrun := run_loadScript file run
  cases hattempt : attempt file run with
  | unresolved failure =>
      rw [hattempt] at hrun
      rw [hrun]
      refine h.idle ?_ ?_ ?_ <;> simp [Load.completed?, Load.loaded?, Load.outcome, hattempt, hrun]
  | refused failure =>
      rw [hattempt] at hrun
      rw [hrun]
      refine h.idle ?_ ?_ ?_ <;> simp [Load.completed?, Load.loaded?, Load.outcome, hattempt, hrun]
  | found number =>
      rw [hattempt] at hrun
      rw [hrun]
      obtain ⟨script, hscript, hpath⟩ := attempt_found hattempt
      have htarget : Load.target? ⟨run, file⟩ = some script.path := by rw [Load.target?, hpath]; rfl
      refine h.idle (by simp [Load.completed?, hattempt]) ?_ ?_
      · simp only [Load.loaded?, hattempt, htarget, Option.some.injEq]
        rintro path rfl
        exact List.mem_map_of_mem (List.mem_of_getElem? hscript)
      · simp only [Load.outcome, hrun, Except.ok.injEq]
        rintro _ rfl
        exact ⟨script.path, htarget, by rw [List.getElem?_map, hscript]; rfl⟩
  | completed script =>
      rw [hattempt] at hrun
      dsimp only at hrun
      rw [hrun]
      obtain ⟨hpath, hfresh, _⟩ := attempt_completed hattempt
      have hcompleted : Load.completed? ⟨run, file⟩ = some script.path := by
        rw [Load.completed?, hattempt]
      have hloaded : Load.loaded? ⟨run, file⟩ = some script.path := by rw [Load.loaded?, hattempt]
      have hnew : script.path ∉ past.filterMap Load.loaded? := by
        rw [h.mem_loaded_iff, List.mem_map]
        rintro ⟨other, hother, heq⟩
        exact hfresh other hother heq
      refine ⟨?_, ?_, ?_⟩
      · rw [List.map_append, List.filterMap_append, h.paths]
        simp [hcompleted]
      · rw [List.filterMap_append, List.filterMap_append]
        simp only [List.filterMap_cons, List.filterMap_nil, hcompleted, hloaded]
        rw [eraseDups_concat, if_neg hnew, h.first]
      · intro m hm number hok
        rw [List.map_append]
        rcases List.mem_append.mp hm with hm | hm
        · obtain ⟨path, htarget, hat⟩ := h.known m hm number hok
          refine ⟨path, htarget, ?_⟩
          rw [List.getElem?_append_left (List.getElem?_eq_some_iff.mp hat).1]
          exact hat
        · obtain rfl := List.mem_singleton.mp hm
          refine ⟨script.path, by rw [Load.target?, hpath]; rfl, ?_⟩
          rw [Load.outcome, hrun] at hok
          cases htell : tell script run with
          | error failure => rw [htell] at hok; cases hok
          | ok u =>
              rw [htell] at hok
              cases hok
              rw [List.getElem?_append_right (by simp)]
              simp

theorem loadsOf (files : List Path) (h : Accounts past run) :
    Accounts (past ++ loadsOf files run) ((files.mapM loadScript).run run).2 := by
  induction files generalizing past run with
  | nil =>
      rw [Generation.loadsOf, List.append_nil]
      exact h
  | cons file rest ih =>
      have hfile := h.load file
      rw [Generation.loadsOf, List.mapM_cons, Stateful.run_bind, ← List.singleton_append,
        ← List.append_assoc]
      rcases hrun : (loadScript file).run run with ⟨failure | number, after⟩
      · rw [hrun] at hfile
        rwa [List.append_nil]
      · rw [hrun] at hfile
        have hrest := ih hfile
        dsimp only
        rw [Stateful.run_bind]
        rcases hrun' : (rest.mapM loadScript).run after with ⟨failure | numbers, last⟩ <;>
          rwa [hrun'] at hrest

theorem of_history (h : History past run) : Accounts past run := by
  induction h with
  | fresh h => exact ⟨by rw [h]; rfl, rfl, fun l hl => nomatch hl⟩
  | @call past run h call ih =>
      rw [Call.run_step, Call.loads]
      cases call.files run with
      | error failure =>
          rw [List.append_nil]
          exact ih
      | ok files => exact loadsOf files ih
  | @between past run after h hsame ih =>
      have hpaths : after.scripts.map (·.path) = run.scripts.map (·.path) := by
        have := congrArg (List.map (·.path)) hsame
        rwa [List.map_map, List.map_map] at this
      exact ⟨hpaths.trans ih.paths, ih.first, fun l hl number hok => hpaths ▸ ih.known l hl number hok⟩

theorem nodup (h : Accounts past run) : (run.scripts.map (·.path)).Nodup := by
  rw [h.paths, h.first]
  exact eraseDups_nodup _

end Accounts

/-- How a load ends whose module is not executed to its end: as loading fails, unless there is no resolving the
path, the path is no text, or the module raises what interrupts the program. These come out as they are. -/
inductive Unloaded (w : Workspace) (file : Path) : Failure → Prop
  | unresolved {failure : Failure} (hfile : w.resolvePath file = .error failure) : Unloaded w file failure
  | unspelled {path : Path} (hfile : w.resolvePath file = .ok path) (hpath : path.isText = false) :
      Unloaded w file (.fault { kind := "UnicodeEncodeError", message := "surrogates not allowed" })
  | interrupted {path : Path} {plugin : Plugin} {fault : Fault} (hfile : w.resolvePath file = .ok path)
      (hread : w.readPlugin path = .ok plugin) (hfault : plugin.fault = some fault)
      (hinterrupt : (Failure.fault fault).isInterrupt = true) : Unloaded w file (.fault fault)
  | failed {failure : Failure} (h : failure.isPluginLoad = true) : Unloaded w file failure

theorem unloaded_of_imported {w : Workspace} {file path : Path} {failure : Failure}
    (hfile : w.resolvePath file = .ok path) (h : imported w path = .error failure) : Unloaded w file failure := by
  rw [imported] at h
  split at h
  · rename_i hpath
    cases h
    exact .unspelled hfile (Bool.not_eq_true' _ ▸ hpath)
  · split at h
    · cases h
      exact .failed rfl
    · split at h
      · cases h
        exact .failed rfl
      · rename_i plugin hread
        split at h
        · cases h
        · rename_i fault hfault
          cases h
          rw [loadingFailure]
          split
          · rename_i hpasses
            cases hinterrupt : (Failure.fault fault).isInterrupt with
            | true => exact .interrupted hfile hread hfault hinterrupt
            | false =>
                rw [hinterrupt, Bool.false_or] at hpasses
                exact .failed hpasses
          · exact .failed rfl

theorem attempt_refused {file : Path} {run : Run} {failure : Failure}
    (h : attempt file run = .refused failure) : Unloaded run.desk.workspace file failure := by
  rw [attempt] at h
  split at h
  · cases h
  · rename_i path hpath
    split at h
    · cases h
    · split at h
      · rename_i himport
        cases h
        rw [run_importPlugin] at himport
        exact unloaded_of_imported hpath himport
      · cases h

namespace Load

theorem before_prefix_after (l : Load) : l.before.scripts <+: l.after.scripts := by
  rw [after, run_loadScript]
  cases attempt l.file l.before with
  | unresolved failure => exact List.prefix_rfl
  | found number => exact List.prefix_rfl
  | refused failure => exact List.prefix_rfl
  | completed script => exact List.prefix_append _ _

theorem loaded_of_ok {l : Load} {number : Nat} (h : l.outcome = .ok number) :
    l.loaded? = l.target? := by
  rw [outcome, run_loadScript] at h
  cases hattempt : attempt l.file l.before with
  | unresolved failure => rw [hattempt] at h; cases h
  | found found => rw [loaded?, hattempt]
  | refused failure => rw [hattempt] at h; cases h
  | completed script =>
      rw [loaded?, hattempt, target?, (attempt_completed hattempt).1]
      rfl

/-- How a load fails: its module is not executed to its end, or is and cannot be told of. -/
theorem of_error {l : Load} {failure : Failure} (h : l.outcome = .error failure) :
    (l.after = l.before ∧ l.loaded? = none ∧ Unloaded l.before.desk.workspace l.file failure) ∨
    ∃ script, l.completed? = some script.path ∧ tell script l.before = .error failure := by
  rw [outcome, run_loadScript] at h
  rw [after, run_loadScript, loaded?, completed?]
  cases hattempt : attempt l.file l.before with
  | unresolved cause =>
      rw [hattempt] at h
      cases h
      refine .inl ⟨rfl, rfl, .unresolved ?_⟩
      rw [attempt] at hattempt
      split at hattempt
      · cases hattempt
        assumption
      · split at hattempt
        · cases hattempt
        · split at hattempt <;> cases hattempt
  | found number => rw [hattempt] at h; cases h
  | refused cause =>
      rw [hattempt] at h
      cases h
      exact .inl ⟨rfl, rfl, attempt_refused hattempt⟩
  | completed script =>
      rw [hattempt] at h
      dsimp only at h
      refine .inr ⟨script, rfl, ?_⟩
      cases htell : tell script l.before with
      | ok u => rw [htell] at h; cases h
      | error cause => rw [htell] at h; cases h; rfl

end Load

def scriptTwice (plugin : Plugin) : Run :=
  .start ⟨⟨[(["a.py"], .file (.plugin plugin)), (["b.py"], .link "a.py")]⟩, []⟩ .empty {}

def loadTwice (plugin : Plugin) : List Load × Run :=
  let first := Call.script (.ofString "a.py")
  let second := Call.script (.ofString "./b.py")
  let middle := (first.step.run (scriptTwice plugin)).2
  (first.loads (scriptTwice plugin) ++ second.loads middle, (second.step.run middle).2)

theorem loadTwice_history (plugin : Plugin) : History (loadTwice plugin).1 (loadTwice plugin).2 :=
  ((History.fresh rfl).call (.script (.ofString "a.py"))).call (.script (.ofString "./b.py"))

def interrupting : Plugin := { fault := some { kind := "KeyboardInterrupt", message := "" } }

def Load.isInterrupted (l : Load) : Bool :=
  match l.outcome with
  | .ok _ => false
  | .error failure => failure.isInterrupt

end Codegen.Generation
