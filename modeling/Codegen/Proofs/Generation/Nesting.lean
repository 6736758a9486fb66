import Codegen.Proofs.Generation.AtMostOnce
import Codegen.Proofs.Generation.Scripts

/-! The hooks of plugins ask for what their actions say and for nothing else, of which there is only so
much. The depth that plugins are given is therefore never used up. -/

namespace Codegen.Generation

open Codegen.Plugin

variable {conduct : Conduct} {allowed : Request → Prop} {run middle after : Run}

theorem exists_of_mem_askedInDepth {events : List Event} {request : Request}
    (h : request ∈ askedInDepth events) : ∃ event ∈ events, request ∈ event.request? := by
  induction events with
  | nil => cases h
  | cons event rest ih =>
      rw [askedInDepth, List.mem_append] at h
      rcases h with h | h
      · exact ⟨event, List.mem_cons_self, Option.mem_toList.mp h⟩
      · split at h
        · cases h
        · obtain ⟨other, hother, hrequest⟩ := ih h
          exact ⟨other, List.mem_cons_of_mem event hother, hrequest⟩

/-! What was asked for while hooks that ask for little were run. -/

/-- If the hooks of the scripts ask only for what is allowed, they still do, and nothing else was
asked for. -/
def Asks (conduct : Conduct) (allowed : Request → Prop) (run after : Run) : Prop :=
  run.AsksOnly conduct allowed →
    after.AsksOnly conduct allowed ∧
      ∃ events, after.journal = run.journal ++ events ∧
        ∀ event ∈ events, ∀ request ∈ event.request?, allowed request

namespace Asks

theorem of_events {events : List Event} (hjournal : after.journal = run.journal ++ events)
    (hhandles : after.handles = run.handles)
    (h : ∀ event ∈ events, ∀ request ∈ event.request?, allowed request) :
    Asks conduct allowed run after :=
  fun hasks => ⟨hasks.of_handles (.of_eq hhandles.symm), events, hjournal, h⟩

theorem of_event {event : Event} (hjournal : after.journal = run.journal ++ [event])
    (hhandles : after.handles = run.handles) (h : ∀ request ∈ event.request?, allowed request) :
    Asks conduct allowed run after := by
  refine of_events hjournal hhandles ?_
  intro other hother
  rwa [List.mem_singleton.mp hother]

theorem of_silent (hjournal : after.journal = run.journal) (hhandles : after.handles = run.handles) :
    Asks conduct allowed run after :=
  of_events (by rw [hjournal, List.append_nil]) hhandles fun _ h => absurd h List.not_mem_nil

theorem trans (hfirst : Asks conduct allowed run middle)
    (hsecond : Asks conduct allowed middle after) : Asks conduct allowed run after := by
  intro hasks
  obtain ⟨hmiddle, first, hbefore, hallowed⟩ := hfirst hasks
  obtain ⟨hafter, second, hjournal, hallowed'⟩ := hsecond hmiddle
  refine ⟨hafter, first ++ second, by rw [hjournal, hbefore, List.append_assoc], ?_⟩
  intro event hevent
  rcases List.mem_append.mp hevent with h | h
  · exact hallowed event h
  · exact hallowed' event h

instance : IsPreorder Run (Asks conduct allowed) where
  refl _ := of_silent rfl rfl
  trans _ _ _ := trans

theorem share (run : Run) (registry : Mixin.Registry) (context : Context) :
    Asks conduct allowed run { run with registry, desk := { run.desk with context } } :=
  of_silent rfl rfl

theorem keptByRequest (conduct : Conduct) {request : Request} (hallowed : allowed request) :
    KeptByRequest conduct request (Asks conduct allowed) := by
  have hsame : ∀ asked ∈ some request, allowed asked := by
    rintro asked ⟨⟩
    exact hallowed
  exact {
    done _ _ _ := of_event rfl rfl hsame
    mark _ _ hscript _ := of_silent rfl (Run.handles_marking hscript)
    missing _ _ _ _ _ hscript _ _ := of_event rfl (Run.handles_marking hscript) hsame
    begun _ _ _ _ _ hscript _ _ _ := of_event rfl (Run.handles_marking hscript) hsame }

end Asks

theorem answer_asks (depth : Nat) {request : Request} (value : Value) (hallowed : allowed request) :
    (answer conduct depth request value).Keeps (Asks conduct allowed) := by
  induction depth generalizing request value with
  | zero =>
      have hkept := Asks.keptByRequest conduct hallowed
      refine answerWith_keeps hkept ?_
      intro run script course hscript hmarked hcourse
      exact hkept.begun run script value course .tooDeep hscript hmarked hcourse (.inl rfl)
  | succ depth ih =>
      have hkept := Asks.keptByRequest conduct hallowed
      refine answerWith_keeps hkept ?_
      intro run script course hscript hmarked hcourse hasks
      have hbegun := hkept.begun run script value course .entered hscript hmarked hcourse (.inr rfl)
      have hhook := hasks request.script _ _ course (Run.handles_of_script hscript) hcourse [value]
      have hfollow := hhook.follow_keeps Asks.share fun _ => ih
      rw [beginHook, Stateful.run_bind_ok (run_record _ _)]
      exact hbegun.trans (hfollow _) hasks

theorem runOnce_asks (conduct : Conduct) (number : Nat) (kind name : String) (value : Value)
    (hallowed : allowed ⟨number, kind, name⟩) :
    (runOnce number kind name value conduct).Keeps (Asks conduct allowed) := by
  refine .bind ?_ fun _ => .bind .get fun run => answer_asks _ value hallowed
  exact fun run => Asks.of_event rfl rfl fun _ h => absurd h (Option.not_mem_none _)

theorem callScript_asks (conduct : Conduct) (number : Nat) (hook : String) (args : List Value) :
    (callScript number hook args conduct).Keeps (Asks conduct allowed) := by
  intro run
  cases hscript : run.scripts[number]? with
  | none =>
      obtain ⟨failure, hfail⟩ := run_scriptAt_none hscript
      rw [callScript, Stateful.run_bind_error hfail]
      exact refl_of _ run
  | some script =>
      rw [callScript, Stateful.run_bind_ok (run_scriptAt_some hscript)]
      cases hcourse : conduct.course? number script.plugin hook with
      | none => exact refl_of _ run
      | some course =>
          intro hasks
          have hhook := hasks number _ hook course (Run.handles_of_script hscript) hcourse args
          have hfollow : ∀ depth,
              ((course args).follow (answer conduct depth)).Keeps (Asks conduct allowed) :=
            fun depth => hhook.follow_keeps Asks.share fun _ value h => answer_asks depth value h
          have hcalled : (record (.called number hook)).Keeps (Asks conduct allowed) :=
            fun run => Asks.of_event rfl rfl fun _ h => absurd h (Option.not_mem_none _)
          have hrest := hcalled.bind fun _ => Step.Keeps.get.bind fun run =>
            (hfollow (conduct.depth run.scripts)).bind fun _ => .pure true
          exact hrest run hasks

theorem runLifecycle_asks (conduct : Conduct) (number : Nat) (hook : String) :
    (runLifecycle number hook conduct).Keeps (Asks conduct allowed) := by
  refine .bind (scriptAt_keeps number) fun script => ?_
  split
  · refine .bind ?_ fun _ => .pure _
    intro run
    obtain ⟨outcome, missed, advisories, hrun⟩ := exists_run_recordMissing script hook run
    rw [hrun]
    exact Asks.of_silent rfl rfl
  · exact .bind (.say _ _ _) fun _ => callScript_asks conduct number hook []

/-! How deep that makes hooks lie in one another. -/

theorem callScript_settles (conduct : Conduct) (requests : Finset Request) (depth number : Nat)
    (hook : String) (args : List Value) :
    Settles requests depth fun depth => callScript number hook args (conduct.within depth) := by
  refine .bind (.of_idle (scriptAt_keeps number)) fun script => ?_
  simp only [Conduct.within_course?, Conduct.within_depth, answer_within]
  cases hcourse : conduct.course? number script.plugin hook with
  | none => exact .of_idle (.pure false)
  | some course =>
      refine .bind (.record rfl) fun _ => .bind (.of_idle .get) fun run => ?_
      refine .bind (.follow (fun request value => ?_) _) fun _ => .of_idle (.pure true)
      exact answer_settles conduct requests depth request value

theorem runLifecycle_settles (conduct : Conduct) (requests : Finset Request) (depth number : Nat)
    (hook : String) :
    Settles requests depth fun depth => runLifecycle number hook (conduct.within depth) := by
  refine .bind (.of_idle (scriptAt_keeps number)) fun script => ?_
  simp only [Conduct.within_course?]
  by_cases hmissing : (conduct.course? number script.plugin hook).isNone = true
  · simp only [hmissing, if_true]
    refine .bind (.of_silent ?_ ?_) fun _ => .of_idle (.pure false)
    all_goals
      intro run
      obtain ⟨outcome, missed, advisories, hrun⟩ := exists_run_recordMissing script hook run
      rw [hrun]
  · simp only [hmissing]
    exact .bind (.of_idle (.say _ _ _)) fun _ =>
      callScript_settles conduct requests depth number hook []

def Run.askable (run : Run) : List Request :=
  (run.scripts.flatMap fun script => script.plugin.hooks.flatMap (·.2)).filterMap asked?

theorem Run.nestingBound_eq (run : Run) : nestingBound run.scripts = 2 + run.askable.length := by
  rw [nestingBound, askable, List.length_filterMap_eq_countP]
  refine congrArg (2 + ·) (List.countP_congr fun action _ => ?_)
  cases action <;> simp [asked?]

theorem Run.asksOnly_askable (run : Run) (h : ∀ request ∈ run.askable, allowed request) :
    run.AsksOnly .ofPlugins allowed := by
  refine asksOnly_ofPlugins ?_
  intro handle hhandle hook hhook action haction request hrequest
  obtain ⟨script, hscript, rfl⟩ := List.mem_map.mp hhandle
  refine h request (List.mem_filterMap.mpr ⟨action, ?_, hrequest⟩)
  exact List.mem_flatMap.mpr ⟨script, hscript, List.mem_flatMap.mpr ⟨hook, hhook, haction⟩⟩

theorem suffices_nestingBound {α : Type} {step : Nat → Step α} (due : List Request)
    (hdue : due.length ≤ 2)
    (hsettles : ∀ requests depth, Settles requests depth step)
    (hasks : ∀ allowed : Request → Prop, (∀ request ∈ due, allowed request) →
      ∀ depth, (step depth).Keeps (Asks .ofPlugins allowed)) (run : Run) :
    Suffices step (nestingBound run.scripts) run := by
  let requests := (due ++ run.askable).toFinset
  have hcard : requests.card ≤ nestingBound run.scripts := by
    have hlength := List.toFinset_card_le (due ++ run.askable)
    rw [List.length_append] at hlength
    rw [Run.nestingBound_eq]
    exact le_trans hlength (Nat.add_le_add_right hdue _)
  refine (hsettles requests _).suffices_ run (le_trans (run.unmarked_card_le requests) hcard) ?_
  intro request hrequest
  have hasked := hasks (· ∈ due ++ run.askable) (fun _ => List.mem_append_left _)
    (nestingBound run.scripts) run
  obtain ⟨-, events, hjournal, hallowed⟩ :=
    hasked (run.asksOnly_askable fun _ => List.mem_append_right _)
  rw [Run.since_eq hjournal] at hrequest
  obtain ⟨event, hevent, hmade⟩ := exists_of_mem_askedInDepth hrequest
  exact List.mem_toFinset.mpr (hallowed event hevent request hmade)

/-! The bound of a conduct is the depth that its hooks are given. -/

theorem run_scriptAt_congr {α : Type} {number : Nat} {next other : Script → Step α}
    (h : ∀ script, (next script).run run = (other script).run run) :
    (scriptAt number >>= next).run run = (scriptAt number >>= other).run run := by
  cases hscript : run.scripts[number]? with
  | none =>
      obtain ⟨failure, hfail⟩ := run_scriptAt_none hscript
      rw [Stateful.run_bind_error hfail, Stateful.run_bind_error hfail]
  | some script =>
      have hfound := run_scriptAt_some hscript
      rw [Stateful.run_bind_ok hfound, Stateful.run_bind_ok hfound, h]

theorem run_runOnce_within (conduct : Conduct) (number : Nat) (kind name : String) (value : Value)
    (run : Run) :
    (runOnce number kind name value (conduct.within (conduct.depth run.scripts))).run run =
      (runOnce number kind name value conduct).run run := by
  simp only [runOnce, Stateful.run_bind_ok (run_record _ run),
    Stateful.run_bind_ok (Stateful.run_get _), answer_within, Conduct.within_depth,
    Run.recording_scripts]

theorem run_callScript_within (conduct : Conduct) (number : Nat) (hook : String)
    (args : List Value) (run : Run) :
    (callScript number hook args (conduct.within (conduct.depth run.scripts))).run run =
      (callScript number hook args conduct).run run := by
  refine run_scriptAt_congr fun script => ?_
  simp only [Conduct.within_course?, Conduct.within_depth, answer_within]
  cases conduct.course? number script.plugin hook with
  | none => rfl
  | some course =>
      simp only [Stateful.run_bind_ok (run_record _ run), Stateful.run_bind_ok (Stateful.run_get _),
        Run.recording_scripts]

theorem run_runLifecycle_within (conduct : Conduct) (number : Nat) (hook : String) (run : Run) :
    (runLifecycle number hook (conduct.within (conduct.depth run.scripts))).run run =
      (runLifecycle number hook conduct).run run := by
  refine run_scriptAt_congr fun script => ?_
  by_cases hmissing : (conduct.course? number script.plugin hook).isNone = true
  · rw [if_pos (by exact hmissing), if_pos hmissing]
  · rw [if_neg (by exact hmissing), if_neg hmissing, Stateful.run_bind, Stateful.run_bind, run_say]
    cases Log.pluginsLogger.say run.desk.levels .debug s!"Running {script.name}.{hook}" with
    | error failure => rfl
    | ok u => exact run_callScript_within conduct number hook [] run

/-- A script of plugins may be asked for anything: no hook lies too deep in others, and if more of
them could be open one inside the other, it would come to the same. -/
theorem runOnce_inDepth (number : Nat) (kind name : String) (value : Value) (run : Run) :
    (∀ event ∈ ((runOnce number kind name value).run run).2.since run, event.isTooDeep = false) ∧
      ∀ depth, nestingBound run.scripts ≤ depth →
        (runOnce number kind name value (Conduct.ofPlugins.within depth)).run run =
          (runOnce number kind name value).run run := by
  have hsame := run_runOnce_within .ofPlugins number kind name value run
  have hsuffices := suffices_nestingBound [⟨number, kind, name⟩] (Nat.le_succ 1)
    (fun requests depth => runOnce_settles .ofPlugins requests depth number kind name value)
    (fun allowed hdue depth => runOnce_asks (Conduct.ofPlugins.within depth) number kind name value
      (hdue _ List.mem_cons_self)) run
  rw [← hsame]
  exact ⟨hsuffices.inDepth, fun depth hle => hsuffices.eq_of_le hle⟩

theorem runLifecycle_inDepth (number : Nat) (hook : String) (run : Run) :
    (∀ event ∈ ((runLifecycle number hook).run run).2.since run, event.isTooDeep = false) ∧
      ∀ depth, nestingBound run.scripts ≤ depth →
        (runLifecycle number hook (Conduct.ofPlugins.within depth)).run run =
          (runLifecycle number hook).run run := by
  have hsame := run_runLifecycle_within .ofPlugins number hook run
  have hsuffices := suffices_nestingBound [] (Nat.zero_le 2)
    (fun requests depth => runLifecycle_settles .ofPlugins requests depth number hook)
    (fun allowed hdue depth => runLifecycle_asks (Conduct.ofPlugins.within depth) number hook) run
  rw [← hsame]
  exact ⟨hsuffices.inDepth, fun depth hle => hsuffices.eq_of_le hle⟩

end Codegen.Generation
