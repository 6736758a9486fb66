import Codegen.Generation.Calls
import Codegen.Proofs.Generation.Scripts

/-! Calls for hooks, made from outside and by hooks: what they take note of when a hook is missing. -/

namespace Codegen.Generation

open Codegen.Plugin

/-! Calls by hooks that make calls for an identity only are the requests of their courses. -/

section Requests

variable {conduct : Conduct} {request : Request} {value : Value} {depth : Nat}

theorem Errand.follow_ofCourse (make : HookCall → Step Bool) (course : Course) :
    (ofCourse course).follow make = course.follow fun request value => make (.once request value) := by
  induction course with
  | finish outcome => rfl
  | deed act next ih => simp only [ofCourse, follow, Course.follow, ih]
  | ask request value next ih => simp only [ofCourse, follow, Course.follow, ih]

theorem find_once_bind (conduct : Conduct) (answer : Answer) (request : Request) (value : Value)
    (go : Errand → Step Unit) :
    (do
      match ← conduct.manners.find answer (.once request value) with
      | none => return false
      | some errand =>
        go errand
        return true) =
      answerWith conduct (fun course => do
        record (.asked request value answer)
        go (.ofCourse course)) request value := by
  rw [Manners.find, answerWith, bind_assoc]
  refine bind_congr fun script => ?_
  split
  · simp only [bind_assoc, pure_bind]
  · simp only [bind_assoc]
    refine bind_congr fun _ => ?_
    cases hcourse : conduct.course? request.script script.plugin (hookName request.kind) with
    | none => simp only [Conduct.manners, hcourse, Option.map_none, bind_assoc, pure_bind]
    | some course => simp only [Conduct.manners, hcourse, Option.map_some, bind_assoc, pure_bind]

theorem make_once (conduct : Conduct) (depth : Nat) (request : Request) (value : Value) :
    conduct.manners.make depth (.once request value) = answer conduct depth request value := by
  induction depth generalizing request value with
  | zero => exact find_once_bind conduct .tooDeep request value fun _ => throw .nestedTooDeep
  | succ depth ih =>
      have hmake : (fun request value => conduct.manners.make depth (.once request value)) = answer conduct depth := by
        funext request value
        exact ih request value
      refine (find_once_bind conduct .entered request value (·.follow (conduct.manners.make depth))).trans ?_
      simp only [Errand.follow_ofCourse, hmake]
      rfl

theorem place_once (conduct : Conduct) (number : Nat) (kind name : String) (value : Value) :
    conduct.manners.place (.once ⟨number, kind, name⟩ value) = runOnce number kind name value conduct := by
  simp only [Manners.place, make_once]
  rfl

theorem place_lifecycle (conduct : Conduct) (number : Nat) (hook : String) (run : Run) :
    (conduct.manners.place (.lifecycle number hook)).run run = (runLifecycle number hook conduct).run run := by
  let depth := conduct.depth run.scripts
  have hmake : (fun request value => conduct.manners.make depth (.once request value)) = answer conduct depth := by
    funext request value
    exact make_once conduct depth request value
  rw [Manners.place, Stateful.run_bind_ok (Stateful.run_get run), runLifecycle, Manners.make, Manners.find]
  cases hscript : run.scripts[number]? with
  | none =>
      obtain ⟨failure, hrun⟩ := run_scriptAt_none hscript
      rw [Stateful.run_bind_error (Stateful.run_bind_error hrun _), Stateful.run_bind_error hrun]
  | some script =>
      have hfound := run_scriptAt_some hscript
      rw [bind_assoc, Stateful.run_bind_ok hfound, Stateful.run_bind_ok hfound]
      cases hcourse : conduct.course? number script.plugin hook with
      | none =>
          simp only [Conduct.manners, hcourse, Option.map_none, bind_assoc, pure_bind]
          rfl
      | some course =>
          let message := s!"Running {script.name}.{hook}"
          have hsay := run_say Log.pluginsLogger .debug message run
          simp only [Conduct.manners, hcourse, Option.map_some, bind_assoc, pure_bind]
          cases hsaid : Log.pluginsLogger.say run.desk.levels .debug message with
          | error failure =>
              rw [hsaid] at hsay
              exact (Stateful.run_bind_error hsay _).trans (Stateful.run_bind_error hsay _).symm
          | ok u =>
              rw [hsaid] at hsay
              have hfollow := Errand.follow_ofCourse (conduct.manners.make depth) (course [])
              rw [hmake] at hfollow
              refine (Stateful.run_bind_ok hsay _).trans (Eq.trans ?_ (Stateful.run_bind_ok hsay _).symm)
              rw [callScript, Stateful.run_bind_ok hfound]
              simp only [hcourse]
              rw [Stateful.run_bind_ok (run_record _ _), Stateful.run_bind_ok (run_record _ _),
                Stateful.run_bind_ok (Stateful.run_get _)]
              exact congrArg (fun step : Step Unit => (do step; return true : Step Bool).run _) hfollow

end Requests

/-! The calls that are made, from outside and by hooks, and what they look for. -/

/-- The calls of an errand, each with the run that it is made in. `make` is how a call is made, and `calls` is that
call followed by those of its hook. -/
def Errand.calls (make : HookCall → Step Bool) (calls : HookCall → Run → List (HookCall × Run)) :
    Errand → Run → List (HookCall × Run)
  | finish _, _ => []
  | deed act next, run =>
    let after := (act.shared.run run).2
    (next (act.run run).1 after).calls make calls after
  | call inner next, run =>
    let (answer, after) := (make inner).run run
    calls inner run ++ (next answer).calls make calls after

/-- A look for a hook of a script. -/
structure LookUp where
  path : String
  name : String
  hook : String
  isFound : Bool
  deriving DecidableEq

namespace LookUp

def pair (look : LookUp) : String × String := (look.path, look.hook)

def advisory (look : LookUp) : Advisory := ⟨.missingHook, s!"Script {look.name} has no {look.hook} hook"⟩

/-- Whether the log takes the message on the look-up. -/
def isLogged (levels : Log.Levels) (look : LookUp) : Bool :=
  (Log.pluginsLogger.say levels .debug look.advisory.message).isOk

/-- Whether the look-up is one for the hook of the pair, which is missing. -/
def misses (pair : String × String) (look : LookUp) : Bool := !look.isFound && look.pair = pair

/-- The look-ups that find nothing where none of the pair found nothing before. -/
def fresh (known : List (String × String)) : List LookUp → List LookUp
  | [] => []
  | look :: rest =>
    if look.isFound || known.contains look.pair then fresh known rest
    else look :: fresh (known ++ [look.pair]) rest

end LookUp

namespace Manners

/-- A call, followed by those of its hook. -/
def calls (manners : Manners) : (depth : Nat) → HookCall → Run → List (HookCall × Run)
  | 0, call, run => [(call, run)]
  | depth + 1, call, run =>
    (call, run) ::
      match (manners.find .entered call).run run with
      | (.ok (some errand), begun) => errand.calls (manners.make depth) (manners.calls depth) begun
      | _ => []

/-- A call from outside of all hooks, followed by those of its hook. -/
def callsOf (manners : Manners) : HookCall → Run → List (HookCall × Run)
  | .once request value, run =>
    manners.calls (manners.depth run.scripts) (.once request value) (run.recording (.due request value))
  | .lifecycle number hook, run => manners.calls (manners.depth run.scripts + 1) (.lifecycle number hook) run

/-- All calls that are made when these are made from outside, one after another. -/
def callsOfAll (manners : Manners) : List HookCall → Run → List (HookCall × Run)
  | [], _ => []
  | call :: rest, run => manners.callsOf call run ++ manners.callsOfAll rest ((manners.place call).run run).2

/-- A call looks for its hook unless the hook was run for the identity before. -/
def lookUp? (manners : Manners) (entry : HookCall × Run) : Option LookUp := do
  let (call, run) := entry
  let script ← run.scripts[call.script]?
  if call.isDone script then none
  else
    some
      { path := script.path.toString, name := script.name, hook := call.hook,
        isFound := (manners.errand? call.script script.plugin call.hook).isSome }

end Manners

namespace LookUp

variable {known : List (String × String)} {look : LookUp} {looks first second : List LookUp}

theorem fresh_cons (known : List (String × String)) (look : LookUp) (rest : List LookUp) :
    fresh known (look :: rest) =
      if look.isFound = true ∨ look.pair ∈ known then fresh known rest
      else look :: fresh (known ++ [look.pair]) rest := by
  rw [fresh]
  exact if_congr (by rw [Bool.or_eq_true, List.contains_iff_mem]) rfl rfl

theorem fresh_append (known : List (String × String)) (first second : List LookUp) :
    fresh known (first ++ second) = fresh known first ++ fresh (known ++ (fresh known first).map pair) second := by
  induction first generalizing known with
  | nil => rw [List.nil_append, fresh, List.map_nil, List.append_nil, List.nil_append]
  | cons look rest ih =>
      rw [List.cons_append, fresh_cons, fresh_cons]
      split
      · exact ih known
      · rw [ih, List.map_cons, List.append_assoc, List.singleton_append, List.cons_append]

theorem map_pair_fresh (known : List (String × String)) (looks : List LookUp) :
    (fresh known looks).map pair =
      (((looks.filter (!·.isFound)).map pair).filter (· ∉ known)).eraseDups := by
  induction looks generalizing known with
  | nil => rfl
  | cons look rest ih =>
      rw [fresh_cons]
      split
      · rename_i hold
        rw [ih]
        by_cases hfound : look.isFound = true
        · rw [List.filter_cons_of_neg (by simp [hfound])]
        · rw [List.filter_cons_of_pos (by simp [hfound]), List.map_cons,
            List.filter_cons_of_neg (by simpa using hold.resolve_left hfound)]
      · rename_i hnew
        rw [not_or] at hnew
        rw [List.filter_cons_of_pos (by simpa using hnew.1), List.map_cons, List.map_cons,
          List.filter_cons_of_pos (by simpa using hnew.2), List.eraseDups_cons, ih, List.filter_filter]
        congr 3
        funext other
        simp [not_or, Bool.and_comm, beq_eq_decide]

theorem fresh_of_found (known : List (String × String)) (h : ∀ look ∈ looks, look.isFound = true) :
    fresh known looks = [] := by
  induction looks with
  | nil => rfl
  | cons look rest ih =>
      obtain ⟨hlook, hrest⟩ := List.forall_mem_cons.mp h
      rw [fresh_cons, if_pos (.inl hlook), ih hrest]

theorem not_mem_of_mem_fresh (h : look ∈ fresh known looks) : look.pair ∉ known := by
  have hpair : look.pair ∈ (fresh known looks).map pair := List.mem_map_of_mem h
  rw [map_pair_fresh, List.mem_eraseDups, List.mem_filter] at hpair
  simpa using hpair.2

theorem find?_of_mem_fresh (h : look ∈ fresh known looks) : looks.find? (misses look.pair) = some look := by
  induction looks generalizing known with
  | nil => cases h
  | cons first rest ih =>
      have hknown := not_mem_of_mem_fresh h
      rw [fresh_cons] at h
      split at h
      · rename_i hold
        rw [List.find?_cons_of_neg, ih h]
        rintro hmisses
        simp only [misses, Bool.and_eq_true, Bool.not_eq_true', decide_eq_true_eq] at hmisses
        rcases hold with hfound | hmem
        · rw [hmisses.1] at hfound
          cases hfound
        · exact hknown (hmisses.2 ▸ hmem)
      · rename_i hnew
        rw [not_or] at hnew
        rcases List.mem_cons.mp h with rfl | hrest
        · exact List.find?_cons_of_pos (by simp [misses, hnew.1])
        · have hne : first.pair ≠ look.pair := by
            intro heq
            exact not_mem_of_mem_fresh hrest (heq ▸ List.mem_append_right known List.mem_cons_self)
          rw [List.find?_cons_of_neg (by simp [misses, hne]), ih hrest]

end LookUp

/-! What calls leave behind. -/

/-- The scripts are those of before, and what was marked still is. -/
structure Lasting (run after : Run) : Prop where
  levels : after.desk.levels = run.desk.levels
  handles : after.handles = run.handles
  marks : ∀ request, run.Marked request → after.Marked request

namespace Lasting

variable {run middle after : Run}

theorem refl (run : Run) : Lasting run run := ⟨rfl, rfl, fun _ => id⟩

theorem trans (hfirst : Lasting run middle) (hsecond : Lasting middle after) : Lasting run after :=
  ⟨hsecond.levels.trans hfirst.levels, hsecond.handles.trans hfirst.handles,
    fun request hmarked => hsecond.marks request (hfirst.marks request hmarked)⟩

theorem of_scripts (hlevels : after.desk.levels = run.desk.levels) (h : after.scripts = run.scripts) :
    Lasting run after :=
  ⟨hlevels, by rw [Run.handles, Run.handles, h], fun request => (Run.marked_congr h request).mpr⟩

theorem marking {script : Script} {request : Request} (hscript : run.scripts[request.script]? = some script) :
    Lasting run (run.marking script request) :=
  ⟨rfl, Run.handles_marking hscript, fun other hmarked => (Run.marked_marking_iff hscript other).mpr (.inr hmarked)⟩

end Lasting

/-- Between the two runs these calls were made, and what was noted is what their look-ups newly missed. -/
structure Traced (manners : Manners) (made : List (HookCall × Run)) (run after : Run) : Prop where
  lasting : Lasting run after
  within : ∀ entry ∈ made, Lasting run entry.2
  marked : ∀ entry ∈ made, (manners.lookUp? entry).isSome = true → ∀ request value, entry.1 = .once request value →
    after.Marked request
  missed : after.missed =
    run.missed ++ (LookUp.fresh run.missed (made.filterMap manners.lookUp?)).map LookUp.pair
  advisories : after.advisories =
    run.advisories ++ ((LookUp.fresh run.missed (made.filterMap manners.lookUp?)).filter
      (·.isLogged run.desk.levels)).map LookUp.advisory

namespace Traced

variable {manners : Manners} {made first second : List (HookCall × Run)} {run middle after : Run}

theorem of_lasting (hlasting : Lasting run after) (hmissed : after.missed = run.missed)
    (hadvisories : after.advisories = run.advisories) : Traced manners [] run after where
  lasting := hlasting
  within := List.forall_mem_nil _
  marked := List.forall_mem_nil _
  missed := by rw [hmissed, List.filterMap_nil, LookUp.fresh, List.map_nil, List.append_nil]
  advisories := by rw [hadvisories, List.filterMap_nil, LookUp.fresh, List.filter_nil, List.map_nil, List.append_nil]

theorem trans (hfirst : Traced manners first run middle) (hsecond : Traced manners second middle after) :
    Traced manners (first ++ second) run after where
  lasting := hfirst.lasting.trans hsecond.lasting
  within := List.forall_mem_append.mpr
    ⟨hfirst.within, fun entry hentry => hfirst.lasting.trans (hsecond.within entry hentry)⟩
  marked := List.forall_mem_append.mpr
    ⟨fun entry hentry hlook request value hcall =>
      hsecond.lasting.marks request (hfirst.marked entry hentry hlook request value hcall), hsecond.marked⟩
  missed := by
    rw [hsecond.missed, hfirst.missed, List.filterMap_append, LookUp.fresh_append, List.map_append,
      List.append_assoc]
  advisories := by
    rw [hsecond.advisories, hfirst.advisories, hfirst.missed, hfirst.lasting.levels, List.filterMap_append,
      LookUp.fresh_append, List.filter_append, List.map_append, List.append_assoc]

theorem of_look {call : HookCall} {looks : List LookUp} (hlook : [(call, run)].filterMap manners.lookUp? = looks)
    (hlasting : Lasting run after)
    (hmarked : looks ≠ [] → ∀ request value, call = .once request value → after.Marked request)
    (hmissed : after.missed = run.missed ++ (LookUp.fresh run.missed looks).map LookUp.pair)
    (hadvisories : after.advisories = run.advisories ++
      ((LookUp.fresh run.missed looks).filter (·.isLogged run.desk.levels)).map LookUp.advisory) :
    Traced manners [(call, run)] run after where
  lasting := hlasting
  within := List.forall_mem_singleton.mpr (Lasting.refl run)
  marked := by
    refine List.forall_mem_singleton.mpr fun hsome => hmarked ?_
    rw [← hlook]
    intro hnil
    obtain ⟨look, hlook⟩ := Option.isSome_iff_exists.mp hsome
    rw [List.filterMap_cons_some hlook] at hnil
    cases hnil
  missed := by rw [hmissed, hlook]
  advisories := by rw [hadvisories, hlook]

theorem of_found {call : HookCall} {looks : List LookUp} (hlook : [(call, run)].filterMap manners.lookUp? = looks)
    (hfound : ∀ look ∈ looks, look.isFound = true) (hlasting : Lasting run after)
    (hmarked : looks ≠ [] → ∀ request value, call = .once request value → after.Marked request)
    (hmissed : after.missed = run.missed) (hadvisories : after.advisories = run.advisories) :
    Traced manners [(call, run)] run after := by
  have hfresh := LookUp.fresh_of_found run.missed hfound
  refine of_look hlook hlasting hmarked ?_ ?_
  · rw [hmissed, hfresh, List.map_nil, List.append_nil]
  · rw [hadvisories, hfresh, List.filter_nil, List.map_nil, List.append_nil]

theorem of_none {call : HookCall} (hlook : [(call, run)].filterMap manners.lookUp? = []) (hlasting : Lasting run after)
    (hmissed : after.missed = run.missed) (hadvisories : after.advisories = run.advisories) :
    Traced manners [(call, run)] run after :=
  of_found hlook (List.forall_mem_nil _) hlasting (fun h => absurd rfl h) hmissed hadvisories

end Traced

theorem exists_run_recordMissing_noting (script : Script) (hook : String) (run : Run) :
    let looks : List LookUp := [⟨script.path.toString, script.name, hook, false⟩]
    ∃ outcome, (recordMissing script hook).run run =
      (outcome,
        { run with
          missed := run.missed ++ (LookUp.fresh run.missed looks).map LookUp.pair
          advisories := run.advisories ++
            ((LookUp.fresh run.missed looks).filter (·.isLogged run.desk.levels)).map LookUp.advisory }) := by
  intro looks
  let look : LookUp := ⟨script.path.toString, script.name, hook, false⟩
  by_cases hknown : (script.path.toString, hook) ∈ run.missed
  · have hfresh : LookUp.fresh run.missed looks = [] := by
      rw [LookUp.fresh_cons, if_pos (.inr hknown), LookUp.fresh]
    refine ⟨.ok (), ?_⟩
    rw [hfresh, recordMissing, Stateful.run_bind_ok (Stateful.run_get run), if_pos hknown, List.filter_nil,
      List.map_nil, List.append_nil, List.map_nil, List.append_nil]
    rfl
  · have hnew : ¬ (look.isFound = true ∨ look.pair ∈ run.missed) := not_or.mpr ⟨Bool.false_ne_true, hknown⟩
    have hfresh : LookUp.fresh run.missed looks = [look] := by
      rw [show looks = [look] from rfl, LookUp.fresh_cons, if_neg hnew, LookUp.fresh]
    have hsaid := run_say Log.pluginsLogger .debug look.advisory.message
      { run with missed := run.missed ++ [look.pair] }
    rw [hfresh, recordMissing, Stateful.run_bind_ok (Stateful.run_get run), if_neg hknown]
    cases hsay : Log.pluginsLogger.say run.desk.levels .debug look.advisory.message with
    | error failure =>
        have hlogged : [look].filter (·.isLogged run.desk.levels) = [] := by
          rw [List.filter_singleton, LookUp.isLogged, hsay]
          rfl
        refine ⟨.error failure, ?_⟩
        rw [Stateful.run_bind_ok (Stateful.run_modify _ _), hlogged, List.map_nil, List.append_nil]
        exact Stateful.run_bind_error (hsaid.trans (by rw [hsay]; rfl)) _
    | ok u =>
        have hlogged : [look].filter (·.isLogged run.desk.levels) = [look] := by
          rw [List.filter_singleton, LookUp.isLogged, hsay]
          rfl
        refine ⟨.ok (), ?_⟩
        rw [Stateful.run_bind_ok (Stateful.run_modify _ _), hlogged]
        exact Stateful.run_bind_ok (hsaid.trans (by rw [hsay])) _

namespace Manners

theorem filterMap_lookUp?_none {manners : Manners} {call : HookCall} {run : Run}
    (hscript : run.scripts[call.script]? = none) : [(call, run)].filterMap manners.lookUp? = [] := by
  simp only [List.filterMap_cons, List.filterMap_nil, lookUp?, hscript]
  rfl

theorem filterMap_lookUp?_some {manners : Manners} {call : HookCall} {run : Run} {script : Script}
    (hscript : run.scripts[call.script]? = some script) :
    [(call, run)].filterMap manners.lookUp? =
      if call.isDone script = true then []
      else
        [⟨script.path.toString, script.name, call.hook,
          (manners.errand? call.script script.plugin call.hook).isSome⟩] := by
  simp only [List.filterMap_cons, List.filterMap_nil, lookUp?, hscript, Option.bind_eq_bind, Option.bind_some]
  cases call.isDone script <;> rfl

theorem run_recordMissing_bind {α : Type} (script : Script) (hook : String) (x : α) (run : Run) :
    ((recordMissing script hook >>= fun _ => pure x).run run).2 = ((recordMissing script hook).run run).2 := by
  rw [Stateful.run_bind]
  rcases (recordMissing script hook).run run with ⟨outcome, after⟩
  cases outcome <;> rfl

theorem find_once_traced (manners : Manners) (answer : Answer) (request : Request) (value : Value) (run : Run) :
    Traced manners [(.once request value, run)] run ((manners.find answer (.once request value)).run run).2 := by
  cases hscript : run.scripts[request.script]? with
  | none =>
      obtain ⟨failure, hrun⟩ := run_scriptAt_none hscript
      rw [find, Stateful.run_bind_error hrun]
      exact .of_none (filterMap_lookUp?_none hscript) (.refl run) rfl rfl
  | some script =>
      have hlook := @filterMap_lookUp?_some manners (.once request value) run script hscript
      rw [find, Stateful.run_bind_ok (run_scriptAt_some hscript)]
      by_cases hdone : script.hasRun request.kind request.identity = true
      · rw [HookCall.isDone, if_pos hdone] at hlook
        rw [if_pos hdone]
        exact .of_none hlook (.of_scripts rfl rfl) rfl rfl
      · rw [HookCall.isDone, if_neg hdone] at hlook
        have hmark : (mark script request).run run = (.ok (), run.marking script request) := rfl
        have hlasting := Lasting.marking hscript
        have hmarked : ∀ request' value', HookCall.once request value = .once request' value' →
            (run.marking script request).Marked request' := by
          rintro _ _ ⟨⟩
          exact (Run.marked_marking_iff hscript request).mpr (.inl rfl)
        rw [if_neg hdone, Stateful.run_bind_ok hmark]
        cases herrand : manners.errand? request.script script.plugin (hookName request.kind) with
        | none =>
            let noted := (run.marking script request).recording (.asked request value .missing)
            obtain ⟨outcome, hrun⟩ := exists_run_recordMissing_noting script (hookName request.kind) noted
            simp only [HookCall.script, HookCall.hook, herrand, Option.isSome_none] at hlook
            dsimp only
            rw [Stateful.run_bind_ok (run_record _ _), run_recordMissing_bind, hrun]
            exact .of_look hlook (hlasting.trans (.of_scripts rfl rfl)) (fun _ => hmarked) rfl rfl
        | some errand =>
            let message := s!"Running {script.name}.{hookName request.kind} for {request.identity}"
            have hfound : ∀ look ∈ [LookUp.mk script.path.toString script.name (hookName request.kind) true],
                look.isFound = true := List.forall_mem_singleton.mpr rfl
            simp only [HookCall.script, HookCall.hook, herrand, Option.isSome_some] at hlook
            dsimp only
            cases hsay : Log.pluginsLogger.say (run.marking script request).desk.levels .debug message with
            | error failure =>
                rw [Stateful.run_bind_error ((run_say _ _ _ _).trans (by rw [hsay]))]
                exact .of_found hlook hfound hlasting (fun _ => hmarked) rfl rfl
            | ok u =>
                rw [Stateful.run_bind_ok ((run_say _ _ _ _).trans (by rw [hsay]))]
                exact .of_found hlook hfound (hlasting.trans (.of_scripts rfl rfl)) (fun _ => hmarked) rfl rfl

theorem find_lifecycle_traced (manners : Manners) (answer : Answer) (number : Nat) (hook : String) (run : Run) :
    Traced manners [(.lifecycle number hook, run)] run ((manners.find answer (.lifecycle number hook)).run run).2 := by
  cases hscript : run.scripts[number]? with
  | none =>
      obtain ⟨failure, hrun⟩ := run_scriptAt_none hscript
      rw [find, Stateful.run_bind_error hrun]
      exact .of_none (filterMap_lookUp?_none hscript) (.refl run) rfl rfl
  | some script =>
      have hlook := @filterMap_lookUp?_some manners (.lifecycle number hook) run script hscript
      have hnever : ∀ request value, HookCall.lifecycle number hook = .once request value →
          ∀ after : Run, after.Marked request := nofun
      rw [HookCall.isDone, if_neg Bool.false_ne_true] at hlook
      rw [find, Stateful.run_bind_ok (run_scriptAt_some hscript)]
      cases herrand : manners.errand? number script.plugin hook with
      | none =>
          obtain ⟨outcome, hrun⟩ := exists_run_recordMissing_noting script hook run
          simp only [HookCall.script, HookCall.hook, herrand, Option.isSome_none] at hlook
          dsimp only
          rw [run_recordMissing_bind, hrun]
          exact .of_look hlook (.of_scripts rfl rfl) (fun _ request value h => hnever request value h _) rfl rfl
      | some errand =>
          have hfound : ∀ look ∈ [LookUp.mk script.path.toString script.name hook true], look.isFound = true :=
            List.forall_mem_singleton.mpr rfl
          simp only [HookCall.script, HookCall.hook, herrand, Option.isSome_some] at hlook
          dsimp only
          cases hsay : Log.pluginsLogger.say run.desk.levels .debug s!"Running {script.name}.{hook}" with
          | error failure =>
              rw [Stateful.run_bind_error ((run_say _ _ _ _).trans (by rw [hsay]))]
              exact .of_found hlook hfound (.refl run) (fun _ request value h => hnever request value h _) rfl rfl
          | ok u =>
              rw [Stateful.run_bind_ok ((run_say _ _ _ _).trans (by rw [hsay]))]
              exact .of_found hlook hfound (.of_scripts rfl rfl) (fun _ request value h => hnever request value h _)
                rfl rfl

theorem find_traced (manners : Manners) (answer : Answer) (call : HookCall) (run : Run) :
    Traced manners [(call, run)] run ((manners.find answer call).run run).2 := by
  cases call with
  | once request value => exact find_once_traced manners answer request value run
  | lifecycle number hook => exact find_lifecycle_traced manners answer number hook run

end Manners

theorem Errand.follow_traced {manners : Manners} {make : HookCall → Step Bool}
    {calls : HookCall → Run → List (HookCall × Run)}
    (hmake : ∀ call run, Traced manners (calls call run) run ((make call).run run).2) (errand : Errand) (run : Run) :
    Traced manners (errand.calls make calls run) run ((errand.follow make).run run).2 := by
  induction errand generalizing run with
  | finish outcome =>
      rw [follow, Step.run_lift]
      exact .of_lasting (.refl run) rfl rfl
  | deed act next ih =>
      have hact : act.shared.run run = (.ok (act.run.run run).1, (act.shared.run run).2) := rfl
      have hdeed : Traced manners [] run (act.shared.run run).2 := .of_lasting (.of_scripts rfl rfl) rfl rfl
      rw [follow, Stateful.run_bind_ok hact, Stateful.run_bind_ok (Stateful.run_get _)]
      exact hdeed.trans (ih _ _ _)
  | call inner next ih =>
      rw [follow, Stateful.run_bind_ok (Step.run_outcome _ _)]
      exact (hmake inner run).trans (ih _ _)

namespace Manners

theorem make_traced (manners : Manners) (depth : Nat) (call : HookCall) (run : Run) :
    Traced manners (manners.calls depth call run) run ((manners.make depth call).run run).2 := by
  -- The calls of a hook lie one deeper, where the hypothesis holds of them.
  induction depth generalizing call run with
  | zero =>
      have hfind := manners.find_traced .tooDeep call run
      rw [make, calls, Stateful.run_bind]
      generalize (manners.find .tooDeep call).run run = found at hfind ⊢
      rcases found with ⟨failure | (_ | errand), after⟩ <;> exact hfind
  | succ depth ih =>
      have hfind := manners.find_traced .entered call run
      rw [make, calls, Stateful.run_bind]
      generalize (manners.find .entered call).run run = found at hfind ⊢
      rcases found with ⟨failure | (_ | errand), begun⟩
      · exact hfind
      · exact hfind
      · have hlast : ((errand.follow (manners.make depth) >>= fun _ => pure true).run begun).2 =
            ((errand.follow (manners.make depth)).run begun).2 := by
          rw [Stateful.run_bind]
          rcases (errand.follow (manners.make depth)).run begun with ⟨outcome, after⟩
          cases outcome <;> rfl
        dsimp only
        rw [hlast]
        exact hfind.trans (errand.follow_traced ih begun)

theorem place_traced (manners : Manners) (call : HookCall) (run : Run) :
    Traced manners (manners.callsOf call run) run ((manners.place call).run run).2 := by
  cases call with
  | once request value =>
      have hdue : Traced manners [] run (run.recording (.due request value)) :=
        .of_lasting (.of_scripts rfl rfl) rfl rfl
      rw [place, Stateful.run_bind_ok (run_record _ _), Stateful.run_bind_ok (Stateful.run_get _)]
      exact hdue.trans (manners.make_traced _ _ _)
  | lifecycle number hook =>
      rw [place, Stateful.run_bind_ok (Stateful.run_get _)]
      exact manners.make_traced _ _ run

theorem placeAll_traced (manners : Manners) (calls : List HookCall) (run : Run) :
    Traced manners (manners.callsOfAll calls run) run ((manners.placeAll calls).run run).2 := by
  induction calls generalizing run with
  | nil => exact .of_lasting (.refl run) rfl rfl
  | cons call rest ih =>
      have hplace : ((manners.place call).outcome >>= fun _ => pure ()).run run =
          (.ok (), ((manners.place call).run run).2) := rfl
      have hcons : (manners.placeAll (call :: rest)).run run =
          (manners.placeAll rest).run ((manners.place call).run run).2 := Stateful.run_bind_ok hplace _
      rw [hcons, callsOfAll]
      exact (manners.place_traced call run).trans (ih _)

theorem exists_script_of_lookUp? {manners : Manners} {call : HookCall} {run : Run} {look : LookUp}
    (h : manners.lookUp? (call, run) = some look) :
    ∃ script, run.scripts[call.script]? = some script ∧
      look = ⟨script.path.toString, script.name, call.hook,
        (manners.errand? call.script script.plugin call.hook).isSome⟩ := by
  have hlook : [(call, run)].filterMap manners.lookUp? = [look] := by
    rw [List.filterMap_cons_some h, List.filterMap_nil]
  cases hscript : run.scripts[call.script]? with
  | none => cases (filterMap_lookUp?_none hscript).symm.trans hlook
  | some script =>
      rw [filterMap_lookUp?_some hscript] at hlook
      split at hlook
      · cases hlook
      · exact ⟨script, rfl, (List.singleton_inj.mp hlook).symm⟩

theorem isFound_eq_of_pair_eq {manners : Manners} {start first second : Run} {call other : HookCall}
    {look found : LookUp} (hdistinct : (start.handles.map (·.1.toString)).Nodup) (hfirst : Lasting start first)
    (hsecond : Lasting start second) (hlook : manners.lookUp? (call, first) = some look)
    (hfound : manners.lookUp? (other, second) = some found) (hpair : look.pair = found.pair) :
    look.isFound = found.isFound := by
  obtain ⟨script, hscript, rfl⟩ := exists_script_of_lookUp? hlook
  obtain ⟨script', hscript', rfl⟩ := exists_script_of_lookUp? hfound
  obtain ⟨hpath, hhook⟩ := Prod.mk.inj hpair
  have hhandle := Run.handles_of_script hscript
  have hhandle' := Run.handles_of_script hscript'
  rw [hfirst.handles] at hhandle
  rw [hsecond.handles] at hhandle'
  have hnumber : call.script = other.script := by
    refine (List.getElem?_inj ?_ hdistinct).mp ?_
    · rw [List.length_map]
      exact (List.getElem?_eq_some_iff.mp hhandle).1
    · rw [List.getElem?_map, List.getElem?_map, hhandle, hhandle']
      exact congrArg some hpath
  have hplugin : script.plugin = script'.plugin := by
    rw [hnumber, hhandle'] at hhandle
    exact (Prod.mk.inj (Option.some.inj hhandle)).2.symm
  dsimp only at hhook ⊢
  rw [hnumber, hplugin, hhook]

end Manners

/-- The only hook is one of the first script. It asks the second script for hooks of both kinds that are missing, comes
back to itself and raises in the end. -/
def reentering : Manners where
  errand? number _ hook :=
    if number = 0 ∧ hook = "init_class" then
      some fun _ =>
        .call (.once ⟨1, "Class", "a.B"⟩ .null) fun _ =>
          .call (.lifecycle 1 "init_project") fun _ =>
            .call (.once ⟨0, "Class", "a.B"⟩ .null) fun _ =>
              .finish (.error (.fault { kind := "ValueError", message := "stop" }))
    else none
  depth _ := 2

end Codegen.Generation
