import Codegen.Proofs.Generation.Work
import Mathlib.Data.List.Nodup

/-! The scripts that are loaded: what stays of them in a run, and what their hooks may ask for. -/

namespace Codegen.Generation

open Codegen.Files Codegen.Plugin

namespace Run

/-- What does not change of the scripts that are loaded: where they are and what they do. -/
def handles (run : Run) : List (Path × Plugin) :=
  run.scripts.map fun script => (script.path, script.plugin)

def provides (conduct : Conduct) (run : Run) (number : Nat) (hook : String) : Bool :=
  (run.handles[number]?.bind fun handle => conduct.course? number handle.2 hook).isSome

/-- Whether the hook that a request is for is there. -/
def offers (conduct : Conduct) (run : Run) (request : Request) : Bool :=
  run.provides conduct request.script (hookName request.kind)

theorem handles_of_script {run : Run} {number : Nat} {script : Script}
    (hscript : run.scripts[number]? = some script) :
    run.handles[number]? = some (script.path, script.plugin) := by
  rw [handles, List.getElem?_map, hscript, Option.map_some]

theorem provides_of_script {conduct : Conduct} {run : Run} {number : Nat} {script : Script}
    (hscript : run.scripts[number]? = some script) (hook : String) :
    run.provides conduct number hook = (conduct.course? number script.plugin hook).isSome := by
  rw [provides, handles_of_script hscript, Option.bind_some]

theorem length_handles (run : Run) : run.handles.length = run.scripts.length :=
  List.length_map _

theorem handles_marking {run : Run} {script : Script} {request : Request}
    (hscript : run.scripts[request.script]? = some script) :
    (run.marking script request).handles = run.handles := by
  obtain ⟨hbound, rfl⟩ := List.getElem?_eq_some_iff.mp hscript
  rw [handles, marking, List.map_set, handles]
  refine List.ext_getElem? fun number => ?_
  by_cases hnumber : request.script = number
  · subst hnumber
    rw [List.getElem?_set_self (by rwa [List.length_map]), List.getElem?_map, hscript]
    rfl
  · rw [List.getElem?_set_ne hnumber]

end Run

/-- Scripts keep their numbers, and no file is loaded twice. -/
structure Handles (run after : Run) : Prop where
  stay : run.handles <+: after.handles
  nodup : (run.handles.map (·.1)).Nodup → (after.handles.map (·.1)).Nodup

namespace Handles

variable {run middle after : Run}

theorem of_eq (h : after.handles = run.handles) : Handles run after :=
  ⟨h ▸ List.prefix_refl _, h ▸ id⟩

theorem of_scripts (h : after.scripts = run.scripts) : Handles run after :=
  of_eq (by rw [Run.handles, Run.handles, h])

theorem trans (hfirst : Handles run middle) (hsecond : Handles middle after) : Handles run after :=
  ⟨hfirst.stay.trans hsecond.stay, fun h => hsecond.nodup (hfirst.nodup h)⟩

theorem length_le (h : Handles run after) : run.scripts.length ≤ after.scripts.length := by
  rw [← Run.length_handles, ← Run.length_handles]
  exact h.stay.length_le

theorem keep (h : Handles run after) {number : Nat} {handle : Path × Plugin}
    (hhandle : run.handles[number]? = some handle) : after.handles[number]? = some handle := by
  obtain ⟨hbound, hsame⟩ := List.getElem?_eq_some_iff.mp hhandle
  rw [List.prefix_iff_getElem?.mp h.stay number hbound, hsame]

theorem provides_eq (h : Handles run after) (conduct : Conduct) {number : Nat}
    (hnumber : number < run.scripts.length) (hook : String) :
    after.provides conduct number hook = run.provides conduct number hook := by
  rw [← Run.length_handles] at hnumber
  have hhandle := List.getElem?_eq_getElem hnumber
  rw [Run.provides, Run.provides, hhandle, h.keep hhandle]

theorem keptByLoading : KeptByLoading Handles where
  engine _ _ := of_scripts rfl
  script run script hfresh _ := by
    have hhandles : Run.handles { run with scripts := run.scripts ++ [script] } =
        run.handles ++ [(script.path, script.plugin)] :=
      List.map_append
    refine ⟨⟨_, hhandles.symm⟩, fun hnodup => ?_⟩
    rw [hhandles, List.map_append, List.nodup_append]
    refine ⟨hnodup, List.nodup_singleton _, ?_⟩
    rintro path hpath _ hnew rfl
    obtain rfl := List.mem_singleton.mp hnew
    rw [Run.handles, List.map_map] at hpath
    obtain ⟨loaded, hloaded, hsame⟩ := List.mem_map.mp hpath
    exact hfresh loaded hloaded hsame

end Handles

/-! What hooks ask for. -/

/-- The hooks of the scripts ask for no other hooks than those that are allowed. -/
def Run.AsksOnly (conduct : Conduct) (allowed : Request → Prop) (run : Run) : Prop :=
  ∀ number handle hook course, run.handles[number]? = some handle →
    conduct.course? number handle.2 hook = some course → ∀ args, (course args).AsksOnly allowed

/-- No hook has another one run. -/
def Run.Quiet (conduct : Conduct) (run : Run) : Prop := run.AsksOnly conduct fun _ => False

theorem Run.AsksOnly.of_handles {conduct : Conduct} {allowed : Request → Prop} {run after : Run}
    (h : Handles run after) (hasks : after.AsksOnly conduct allowed) :
    run.AsksOnly conduct allowed := by
  intro number handle hook course hhandle
  exact hasks number handle hook course (h.keep hhandle)

theorem Course.AsksOnly.run_follow {course : Course} (hquiet : course.AsksOnly fun _ => False)
    (again : Request → Value → Step Bool) (run : Run) :
    ∃ outcome registry context, (course.follow again).run run =
      (outcome, { run with registry, desk := { run.desk with context } }) := by
  induction course generalizing run with
  | finish outcome => exact ⟨outcome, run.registry, run.desk.context, Step.run_lift outcome run⟩
  | deed act next ih =>
      obtain ⟨outcome, registry, context, hact⟩ := Step.exists_run_shared act run
      obtain ⟨outcome', registry', context', hrest⟩ := ih outcome _ (hquiet outcome _)
        { run with registry, desk := { run.desk with context } }
      refine ⟨outcome', registry', context', ?_⟩
      rw [follow, Stateful.run_bind_ok hact, Stateful.run_bind_ok (Stateful.run_get _), hrest]
  | ask request value next ih => exact absurd hquiet.1 id

def asked? : Action → Option Request
  | .runOnce script kind identity => some ⟨script, kind, identity⟩
  | _ => none

section

variable {allowed : Request → Prop}

theorem Course.asksOnly_ofActions (value : Value) {actions : List Action}
    (h : ∀ action ∈ actions, ∀ request ∈ asked? action, allowed request) :
    (ofActions value actions).AsksOnly allowed := by
  induction actions with
  | nil => trivial
  | cons action rest ih =>
      have hrest := ih fun other hother => h other (List.mem_cons_of_mem action hother)
      have hgoes : ∀ outcome run,
          (unlessFailed (ofActions value rest) outcome run).AsksOnly allowed := by
        intro outcome run
        cases outcome with
        | ok u => exact hrest
        | error failure => trivial
      cases action with
      | runOnce script kind identity =>
          exact ⟨h _ List.mem_cons_self _ rfl, fun _ => hgoes⟩
      | _ => exact hgoes

theorem Run.asksOnly_ofPlugins {run : Run}
    (h : ∀ handle ∈ run.handles, ∀ hook ∈ handle.2.hooks, ∀ action ∈ hook.2,
      ∀ request ∈ asked? action, allowed request) : run.AsksOnly .ofPlugins allowed := by
  intro number handle name course hhandle hcourse args
  obtain ⟨callee, hcallee, rfl⟩ := Option.map_eq_some_iff.mp hcourse
  cases callee with
  | function f => exact fun _ _ => trivial
  | hook actions =>
      have hactions : (name, actions) ∈ handle.2.hooks := by
        rw [Plugin.callee?.eq_def] at hcallee
        split at hcallee
        · cases hcallee
        · cases hcallee
        · obtain ⟨found, hfound, hsame⟩ := Option.map_eq_some_iff.mp hcallee
          cases hsame
          obtain ⟨before, rest, hsplit, _⟩ := List.lookup_eq_some_iff.mp hfound
          rw [hsplit]
          exact List.mem_append_right _ List.mem_cons_self
      have hasks := h handle (List.mem_of_getElem? hhandle) _ hactions
      dsimp only [calleeCourse]
      split
      · trivial
      · exact Course.asksOnly_ofActions _ hasks

end

end Codegen.Generation
