import Codegen.Proofs.Generation.Scripts
import Codegen.Proofs.Generation.Shipping

/-! What a run comes to on its own, and what of that is done: the hooks of the whole run, the hooks
for identities the first time they are due, and the templates. -/

namespace Codegen.Generation

open Codegen.Files Codegen.Plugin

/-- Something that a run comes to: a hook of the whole run, a hook for an identity, or a template. -/
inductive Deed
  | call (script : Nat) (hook : String)
  | hook (request : Request) (value : Value)
  | render (classifier : Value) (template : Path)

def Deed.request? : Deed → Option Request
  | hook request _ => some request
  | _ => none

def Deed.call? : Deed → Option (Nat × String)
  | call script name => some (script, name)
  | _ => none

/-- What the run comes to with an event. -/
def Event.planned? : Event → Option Deed
  | due request value => some (.hook request value)
  | called script hook => some (.call script hook)
  | rendered classifier result => some (.render classifier result.template)
  | _ => none

/-- What is done with an event. -/
def Event.performed? : Event → Option Deed
  | asked request value .entered => some (.hook request value)
  | called script hook => some (.call script hook)
  | rendered classifier result => some (.render classifier result.template)
  | _ => none

def planned (events : List Event) : List Deed := events.filterMap Event.planned?

def performed (events : List Event) : List Deed := events.filterMap Event.performed?

def requested (deeds : List Deed) : List Request := deeds.filterMap Deed.request?

def called (deeds : List Deed) : List (Nat × String) := deeds.filterMap Deed.call?

/-- Of the hooks for an identity, those that are there and that come for the first time. `seen` are
the requests that came before. -/
def firstTimes (has : Request → Bool) : (seen : List Request) → List Deed → List Deed
  | _, [] => []
  | seen, .hook request value :: rest =>
    if request ∈ seen then firstTimes has seen rest
    else if has request then .hook request value :: firstTimes has (request :: seen) rest
    else firstTimes has (request :: seen) rest
  | seen, .call script hook :: rest => .call script hook :: firstTimes has seen rest
  | seen, .render classifier template :: rest =>
    .render classifier template :: firstTimes has seen rest

theorem planned_append (first second : List Event) :
    planned (first ++ second) = planned first ++ planned second :=
  List.filterMap_append

theorem performed_append (first second : List Event) :
    performed (first ++ second) = performed first ++ performed second :=
  List.filterMap_append

theorem requested_append (first second : List Deed) :
    requested (first ++ second) = requested first ++ requested second :=
  List.filterMap_append

theorem requested_performed (events : List Event) : requested (performed events) = begun events := by
  rw [requested, performed, begun, List.filterMap_filterMap]
  refine List.filterMap_congr fun event _ => ?_
  cases event with
  | asked request value answer => cases answer <;> rfl
  | _ => rfl

section

variable {has has' : Request → Bool}

theorem firstTimes_congr {deeds : List Deed} (hhas : ∀ request ∈ requested deeds, has request = has' request)
    {seen seen' : List Request} (hseen : ∀ request, request ∈ seen ↔ request ∈ seen') :
    firstTimes has seen deeds = firstTimes has' seen' deeds := by
  induction deeds generalizing seen seen' with
  | nil => rfl
  | cons deed rest ih =>
      cases deed with
      | call script hook => exact congrArg (_ :: ·) (ih hhas hseen)
      | render classifier template => exact congrArg (_ :: ·) (ih hhas hseen)
      | hook request value =>
          have hrest : ∀ other ∈ requested rest, has other = has' other :=
            fun other hother => hhas other (List.mem_cons_of_mem request hother)
          have hmore : ∀ other, other ∈ request :: seen ↔ other ∈ request :: seen' := by
            intro other
            rw [List.mem_cons, List.mem_cons, hseen other]
          have hhere : has request = has' request := hhas request List.mem_cons_self
          simp only [firstTimes, hseen request, hhere, ih hrest hseen, ih hrest hmore]

theorem firstTimes_append (first second : List Deed) (seen : List Request) :
    firstTimes has seen (first ++ second) =
      firstTimes has seen first ++ firstTimes has (requested first ++ seen) second := by
  induction first generalizing seen with
  | nil => rfl
  | cons deed rest ih =>
      cases deed with
      | call script hook => exact congrArg (_ :: ·) (ih seen)
      | render classifier template => exact congrArg (_ :: ·) (ih seen)
      | hook request value =>
          have hsecond : firstTimes has (requested rest ++ request :: seen) second =
              firstTimes has (request :: (requested rest ++ seen)) second := by
            refine firstTimes_congr (fun _ _ => rfl) fun other => ?_
            simp only [List.mem_append, List.mem_cons]
            tauto
          have hrequested : requested (.hook request value :: rest) = request :: requested rest := rfl
          rw [List.cons_append, firstTimes, firstTimes, hrequested, List.cons_append]
          by_cases hseen : request ∈ seen
          · have hknown : firstTimes has (requested rest ++ seen) second =
                firstTimes has (request :: (requested rest ++ seen)) second := by
              refine firstTimes_congr (fun _ _ => rfl) fun other => ?_
              rw [List.mem_cons]
              refine ⟨.inr, ?_⟩
              rintro (rfl | hother)
              · exact List.mem_append_right _ hseen
              · exact hother
            rw [if_pos hseen, if_pos hseen, ih, hknown]
          · rw [if_neg hseen, if_neg hseen]
            split
            · rw [ih, hsecond, List.cons_append]
            · rw [ih, hsecond]

theorem count_firstTimes (deeds : List Deed) (seen : List Request) (request : Request) :
    (requested (firstTimes has seen deeds)).count request =
      if request ∈ requested deeds ∧ request ∉ seen ∧ has request = true then 1 else 0 := by
  induction deeds generalizing seen with
  | nil => rfl
  | cons deed rest ih =>
      cases deed with
      | call script hook => exact ih seen
      | render classifier template => exact ih seen
      | hook other value =>
          have hrequested : requested (.hook other value :: rest) = other :: requested rest := rfl
          rw [firstTimes, hrequested]
          by_cases hseen : other ∈ seen
          · rw [if_pos hseen, ih]
            refine if_congr ?_ rfl rfl
            rw [List.mem_cons]
            constructor
            · rintro ⟨hmem, hnew, hhas⟩
              exact ⟨.inr hmem, hnew, hhas⟩
            · rintro ⟨rfl | hmem, hnew, hhas⟩
              · exact absurd hseen hnew
              · exact ⟨hmem, hnew, hhas⟩
          · rw [if_neg hseen]
            by_cases hsame : request = other
            · subst hsame
              have hlater :
                  (requested (firstTimes has (request :: seen) rest)).count request = 0 := by
                rw [ih, if_neg]
                exact fun h => h.2.1 List.mem_cons_self
              by_cases hhas : has request = true
              · have hcons : requested (.hook request value :: firstTimes has (request :: seen) rest) =
                    request :: requested (firstTimes has (request :: seen) rest) := rfl
                rw [if_pos hhas, hcons, List.count_cons_self, hlater,
                  if_pos ⟨List.mem_cons_self, hseen, hhas⟩]
              · rw [if_neg hhas, hlater, if_neg fun h => hhas h.2.2]
            · have hlater :
                  (requested (firstTimes has (other :: seen) rest)).count request =
                    if request ∈ other :: requested rest ∧ request ∉ seen ∧ has request = true
                    then 1 else 0 := by
                rw [ih]
                refine if_congr ?_ rfl rfl
                simp [hsame]
              by_cases hhas : has other = true
              · have hcons : requested (.hook other value :: firstTimes has (other :: seen) rest) =
                    other :: requested (firstTimes has (other :: seen) rest) := rfl
                rw [if_pos hhas, hcons, List.count_cons_of_ne (Ne.symm hsame), hlater]
              · rw [if_neg hhas, hlater]

end

end Codegen.Generation

/-! What the parts of a run come to on their own, and that of it what comes for the first time is
done. -/

namespace Codegen.Generation

open Codegen.Files Codegen.Plugin

/-! Steps by which nothing is planned. -/

/-- Nothing was written down and no request was marked. -/
structure Still (run after : Run) : Prop where
  journal : after.journal = run.journal
  handles : Handles run after
  marked : ∀ request, after.Marked request ↔ run.Marked request

namespace Still

variable {run middle after : Run}

theorem of_scripts (hjournal : after.journal = run.journal) (hscripts : after.scripts = run.scripts) :
    Still run after :=
  ⟨hjournal, .of_scripts hscripts, Run.marked_congr hscripts⟩

theorem trans (hfirst : Still run middle) (hsecond : Still middle after) : Still run after :=
  ⟨hsecond.journal.trans hfirst.journal, hfirst.handles.trans hsecond.handles,
    fun request => (hsecond.marked request).trans (hfirst.marked request)⟩

instance : IsPreorder Run Still where
  refl _ := of_scripts rfl rfl
  trans _ _ _ := trans

theorem keptByLoading : KeptByLoading Still where
  engine _ _ := of_scripts rfl rfl
  script run script hfresh hexecuted := by
    refine ⟨rfl, Handles.keptByLoading.script run script hfresh hexecuted, fun request => ?_⟩
    -- The new script is the last one, and its record is empty.
    by_cases hnumber : request.script < run.scripts.length
    · rw [Run.Marked, Run.Marked, List.getElem?_append_left hnumber]
    · constructor
      · rintro ⟨found, hfound, hrun⟩
        rw [List.getElem?_append_right (Nat.le_of_not_lt hnumber)] at hfound
        obtain rfl := List.mem_singleton.mp (List.mem_of_getElem? hfound)
        rw [Script.hasRun, hexecuted] at hrun
        cases hrun
      · rintro ⟨found, hfound, _⟩
        exact absurd (List.getElem?_eq_some_iff.mp hfound).1 hnumber

theorem enter (stage : Stage) : (Generation.enter stage).Keeps Still :=
  fun _ => of_scripts rfl rfl

theorem recordMissing (script : Script) (hook : String) :
    (Generation.recordMissing script hook).Keeps Still := by
  intro run
  obtain ⟨outcome, missed, advisories, hrun⟩ := exists_run_recordMissing script hook run
  rw [hrun]
  exact of_scripts rfl rfl

end Still

/-- Whatever else happened, it was asked for by hooks. -/
structure Unplanned (run after : Run) : Prop where
  journal : after.journal = run.journal ++ after.since run
  planned : planned (after.since run) = []
  handles : Handles run after

namespace Unplanned

variable {run middle after : Run}

theorem of_events {events : List Event} (hjournal : after.journal = run.journal ++ events)
    (hplanned : Generation.planned events = []) (hhandles : Handles run after) :
    Unplanned run after := by
  have hsince := Run.since_eq hjournal
  subst hsince
  exact ⟨hjournal, hplanned, hhandles⟩

theorem trans (hfirst : Unplanned run middle) (hsecond : Unplanned middle after) :
    Unplanned run after := by
  have hjournal := Run.journal_append hfirst.journal hsecond.journal
  refine of_events hjournal ?_ (hfirst.handles.trans hsecond.handles)
  rw [planned_append, hfirst.planned, hsecond.planned, List.append_nil]

instance : IsPreorder Run Unplanned where
  refl _ := of_events (List.append_nil _).symm rfl (.of_eq rfl)
  trans _ _ _ := trans

theorem keptByRequests (conduct : Conduct) : KeptByRequests conduct Unplanned where
  share _ _ _ := of_events (List.append_nil _).symm rfl (.of_scripts rfl)
  request _ := {
    done _ _ _ := of_events rfl rfl (.of_scripts rfl)
    mark _ _ hscript _ :=
      of_events (List.append_nil _).symm rfl (.of_eq (Run.handles_marking hscript))
    missing _ _ _ _ _ hscript _ _ := of_events rfl rfl (.of_eq (Run.handles_marking hscript))
    begun _ _ _ _ reply hscript _ _ hreply := by
      refine of_events rfl ?_ (.of_eq (Run.handles_marking hscript))
      rcases hreply with rfl | rfl <;> rfl }

end Unplanned

/-! What a part of a run comes to. -/

/-- On its own the run came to `plan`. If hooks ask for no others, what was done are the hooks that
are there the first time that they are due, and all the rest of the plan; and what is marked now was
marked before or is part of the plan. -/
structure Walked (conduct : Conduct) (run after : Run) (plan : List Deed) : Prop where
  journal : after.journal = run.journal ++ after.since run
  planned : planned (after.since run) = plan
  handles : Handles run after
  bound : ∀ request ∈ requested plan, request.script < after.scripts.length
  marked : after.Quiet conduct → ∀ request,
    after.Marked request ↔ run.Marked request ∨ request ∈ requested plan
  performed : after.Quiet conduct → ∀ seen, (∀ request, request ∈ seen ↔ run.Marked request) →
    performed (after.since run) = firstTimes (after.offers conduct) seen plan

namespace Walked

variable {conduct : Conduct} {run middle after : Run} {plan first second : List Deed}

theorem of_unplanned (h : Unplanned run after) (hstill : after.Quiet conduct → Still run after) :
    Walked conduct run after [] := by
  refine ⟨h.journal, h.planned, h.handles, ?_, ?_, ?_⟩
  · intro request hrequest
    cases hrequest
  · intro hquiet request
    rw [(hstill hquiet).marked request]
    exact ⟨.inl, fun h => h.resolve_right List.not_mem_nil⟩
  · intro hquiet seen _
    have hjournal : after.journal = run.journal ++ [] := by
      rw [(hstill hquiet).journal, List.append_nil]
    rw [Run.since_eq hjournal]
    rfl

theorem of_still (h : Still run after) : Walked conduct run after [] :=
  of_unplanned (.of_events (by rw [h.journal, List.append_nil]) rfl h.handles) fun _ => h

theorem refl (run : Run) : Walked conduct run run [] :=
  of_still (refl_of Still run)

theorem trans (hfirst : Walked conduct run middle first)
    (hsecond : Walked conduct middle after second) : Walked conduct run after (first ++ second) := by
  have hjournal := Run.journal_append hfirst.journal hsecond.journal
  have hsince := Run.since_eq hjournal
  have hlength := hsecond.handles.length_le
  refine ⟨hsince ▸ hjournal, ?_, hfirst.handles.trans hsecond.handles, ?_, ?_, ?_⟩
  · rw [hsince, planned_append, hfirst.planned, hsecond.planned]
  · intro request hrequest
    rw [requested_append, List.mem_append] at hrequest
    rcases hrequest with hmem | hmem
    · exact lt_of_lt_of_le (hfirst.bound request hmem) hlength
    · exact hsecond.bound request hmem
  · intro hquiet request
    rw [hsecond.marked hquiet, hfirst.marked (hquiet.of_handles hsecond.handles), requested_append,
      List.mem_append, or_assoc]
  · intro hquiet seen hseen
    have hbefore := hquiet.of_handles hsecond.handles
    have hoffers : ∀ request ∈ requested first,
        middle.offers conduct request = after.offers conduct request :=
      fun request hrequest =>
        (hsecond.handles.provides_eq conduct (hfirst.bound request hrequest) _).symm
    -- What the first part came to has been seen when the second begins.
    have hnow : ∀ request, request ∈ requested first ++ seen ↔ middle.Marked request := by
      intro request
      rw [hfirst.marked hbefore, List.mem_append, hseen]
      exact or_comm
    rw [hsince, performed_append, hfirst.performed hbefore seen hseen,
      hsecond.performed hquiet _ hnow, firstTimes_append,
      firstTimes_congr hoffers fun _ => Iff.rfl]

theorem still_trans (hfirst : Still run middle) (hsecond : Walked conduct middle after plan) :
    Walked conduct run after plan :=
  (of_still hfirst).trans hsecond

theorem trans_still (hfirst : Walked conduct run middle plan) (hsecond : Still middle after) :
    Walked conduct run after plan := by
  have hboth := hfirst.trans (of_still hsecond)
  rwa [List.append_nil] at hboth

theorem of_events {events : List Event} {deed : Deed} (hplanned : Generation.planned events = [deed])
    (hperformed : Generation.performed events = [deed]) (hrequest : deed.request? = none)
    (hjournal : after.journal = run.journal ++ events) (hscripts : after.scripts = run.scripts) :
    Walked conduct run after [deed] := by
  have hsince := Run.since_eq hjournal
  have hrequested : requested [deed] = [] := by
    rw [requested, List.filterMap_cons_none hrequest, List.filterMap_nil]
  refine ⟨hsince ▸ hjournal, hsince ▸ hplanned, .of_scripts hscripts, ?_, ?_, ?_⟩
  · rw [hrequested]
    intro request hmem
    cases hmem
  · intro _ request
    rw [Run.marked_congr hscripts, hrequested]
    exact ⟨.inl, fun h => h.resolve_right List.not_mem_nil⟩
  · intro _ seen _
    rw [hsince, hperformed]
    cases deed with
    | hook request value => cases hrequest
    | call script hook => rfl
    | render classifier template => rfl

end Walked

/-! The parts that a run is made of. -/

section

variable {conduct : Conduct} {run after : Run}

theorem answer_quiet {depth : Nat} {request : Request} {value : Value} {ran : Bool}
    (hquiet : run.Quiet conduct)
    (hrun : (answer conduct depth request value).run run = (.ok ran, after)) :
    (∀ other, after.Marked other ↔ run.Marked other ∨ other = request) ∧
      (run.Marked request → performed (after.since run) = []) ∧
      (¬ run.Marked request → performed (after.since run) =
        if run.offers conduct request = true then [.hook request value] else []) := by
  obtain ⟨reply, hanswered, hreply⟩ := answered conduct request value run
  rw [answer, hreply] at hrun
  cases hanswered with
  | absent failure hnone => cases hrun
  | done hmarked =>
      cases hrun
      refine ⟨fun other => ?_, fun _ => ?_, fun h => absurd hmarked h⟩
      · rw [Run.marked_congr (run.recording_scripts _)]
        refine ⟨.inl, ?_⟩
        rintro (h | rfl)
        · exact h
        · exact hmarked
      · rw [Run.since_eq (run.recording_journal _)]
        rfl
  | missing script hscript hmarked hcourse outcome houtcome missed advisories =>
      cases hrun
      refine ⟨fun other => ?_, fun h => absurd h hmarked, fun _ => ?_⟩
      · exact (Run.marked_marking_iff hscript other).trans or_comm
      · have hoffers : run.offers conduct request = false := by
          rw [Run.offers, Run.provides_of_script hscript, hcourse, Option.isSome_none]
        rw [hoffers, Run.since_eq rfl]
        rfl
  | unsaid script hscript hmarked failure => cases hrun
  | begun script hscript hmarked course hcourse =>
      have hhook : (course [value]).AsksOnly fun _ => False :=
        hquiet request.script _ _ course (Run.handles_of_script hscript) hcourse _
      have hoffers : run.offers conduct request = true := by
        rw [Run.offers, Run.provides_of_script hscript, hcourse, Option.isSome_some]
      -- A hook that lies too deep makes the request fail.
      cases depth with
      | zero => cases hrun
      | succ depth =>
          dsimp only at hrun
          rw [run_beginHook_succ] at hrun
          obtain ⟨outcome, registry, context, hfollow⟩ :=
            hhook.run_follow (answer conduct depth) (run.entering script request value)
          rw [hfollow] at hrun
          obtain rfl := congrArg Prod.snd hrun
          refine ⟨fun other => ?_, fun h => absurd h hmarked, fun _ => ?_⟩
          · exact (Run.marked_marking_iff hscript other).trans or_comm
          · rw [if_pos hoffers, Run.since_eq rfl]
            rfl

theorem answer_bound {depth : Nat} {request : Request} {value : Value} {ran : Bool}
    (hrun : (answer conduct depth request value).run run = (.ok ran, after)) :
    request.script < run.scripts.length := by
  obtain ⟨reply, hanswered, hreply⟩ := answered conduct request value run
  rw [answer, hreply] at hrun
  cases hanswered with
  | absent failure hnone => cases hrun
  | done hmarked =>
      obtain ⟨script, hscript, _⟩ := hmarked
      exact (List.getElem?_eq_some_iff.mp hscript).1
  | missing script hscript => exact (List.getElem?_eq_some_iff.mp hscript).1
  | unsaid script hscript => exact (List.getElem?_eq_some_iff.mp hscript).1
  | begun script hscript => exact (List.getElem?_eq_some_iff.mp hscript).1

theorem runOnce_walked {number : Nat} {kind name : String} {value : Value} {ran : Bool}
    (hrun : (runOnce number kind name value conduct).run run = (.ok ran, after)) :
    Walked conduct run after [.hook ⟨number, kind, name⟩ value] := by
  let request : Request := ⟨number, kind, name⟩
  let noted := run.recording (.due request value)
  rw [runOnce, Stateful.run_bind_ok (run_record _ run), Stateful.run_bind_ok (Stateful.run_get _)] at hrun
  have hanswer : (answer conduct (conduct.depth noted.scripts) request value).run noted =
      (.ok ran, after) := hrun
  have hrest : Unplanned noted after :=
    (answer_keeps (Unplanned.keptByRequests conduct) _ request value).of_run hanswer
  have hnoted : Handles run noted := .of_scripts rfl
  have hhandles : Handles run after := hnoted.trans hrest.handles
  have hjournal : after.journal = run.journal ++ .due request value :: after.since noted := by
    rw [hrest.journal, Run.recording_journal, List.append_assoc, List.singleton_append]
  have hsince := Run.since_eq hjournal
  have hmarks : ∀ other, noted.Marked other ↔ run.Marked other :=
    Run.marked_congr (run.recording_scripts _)
  have hbound : number < run.scripts.length := answer_bound hanswer
  refine ⟨hsince ▸ hjournal, ?_, hhandles, ?_, ?_, ?_⟩
  · have hplanned : planned (.due request value :: after.since noted) =
        .hook request value :: planned (after.since noted) := rfl
    rw [hsince, hplanned, hrest.planned]
  · intro other hother
    obtain rfl := List.mem_singleton.mp hother
    exact lt_of_lt_of_le hbound hhandles.length_le
  · intro hquiet other
    have hnow := (answer_quiet (hquiet.of_handles hrest.handles) hanswer).1 other
    rw [hmarks] at hnow
    rw [hnow]
    exact or_congr_right List.mem_singleton.symm
  · intro hquiet seen hseen
    obtain ⟨_, hdone, hnew⟩ := answer_quiet (hquiet.of_handles hrest.handles) hanswer
    rw [hmarks, ← hseen] at hdone hnew
    have hoffers : noted.offers conduct request = after.offers conduct request :=
      (hrest.handles.provides_eq conduct hbound _).symm
    have hperformed : performed (after.since run) = performed (after.since noted) := by
      rw [hsince]
      rfl
    rw [hperformed, firstTimes]
    by_cases hmem : request ∈ seen
    · rw [if_pos hmem, hdone hmem]
      rfl
    · rw [if_neg hmem, hnew hmem, hoffers]
      rfl

theorem call_walked {number : Nat} {hook : String} {script : Script} {course : List Value → Course}
    {args : List Value} {depth : Nat} {outcome : Except Failure Unit}
    (hscript : run.scripts[number]? = some script)
    (hcourse : conduct.course? number script.plugin hook = some course)
    (hrun : ((course args).follow (answer conduct depth)).run
      (run.recording (.called number hook)) = (outcome, after)) :
    Walked conduct run after [.call number hook] := by
  let noted := run.recording (.called number hook)
  have hcalled : Walked conduct run noted [.call number hook] :=
    .of_events rfl rfl rfl (run.recording_journal _) rfl
  have hrest : Unplanned noted after :=
    ((course args).follow_keeps (Unplanned.keptByRequests conduct).share
      (answer_keeps (Unplanned.keptByRequests conduct) depth)).of_run hrun
  have hstill : after.Quiet conduct → Still noted after := by
    intro hquiet
    have hhook : (course args).AsksOnly fun _ => False :=
      (hquiet.of_handles hrest.handles) number _ hook course (Run.handles_of_script hscript) hcourse _
    obtain ⟨_, registry, context, hfollow⟩ := hhook.run_follow (answer conduct depth) noted
    rw [hrun] at hfollow
    obtain rfl := congrArg Prod.snd hfollow
    exact .of_scripts rfl rfl
  exact hcalled.trans (.of_unplanned hrest hstill)

theorem runLifecycle_walked {number : Nat} {hook : String} {ran : Bool}
    (hrun : (runLifecycle number hook conduct).run run = (.ok ran, after)) :
    Walked conduct run after
      (if run.provides conduct number hook = true then [.call number hook] else []) := by
  cases hscript : run.scripts[number]? with
  | none =>
      obtain ⟨failure, hfail⟩ := run_scriptAt_none hscript
      rw [runLifecycle, Stateful.run_bind_error hfail] at hrun
      cases hrun
  | some script =>
      have hfound := run_scriptAt_some hscript
      rw [runLifecycle, Stateful.run_bind_ok hfound] at hrun
      rw [Run.provides_of_script hscript]
      cases hcourse : conduct.course? number script.plugin hook with
      | none =>
          simp only [hcourse, Option.isNone_none, if_true] at hrun
          obtain ⟨u, middle, hmissing, hrest⟩ := Stateful.bind_ok_iff.mp hrun
          cases hrest
          exact .of_still ((Still.recordMissing script hook).of_run hmissing)
      | some course =>
          simp only [hcourse, Option.isNone_some, Bool.false_eq_true, if_false] at hrun
          obtain ⟨u, middle, hsay, hcall⟩ := Stateful.bind_ok_iff.mp hrun
          rw [run_say] at hsay
          obtain rfl : run = middle := congrArg Prod.snd hsay
          rw [callScript, Stateful.run_bind_ok hfound] at hcall
          simp only [hcourse] at hcall
          rw [Stateful.run_bind_ok (run_record _ _), Stateful.run_bind_ok (Stateful.run_get _)] at hcall
          obtain ⟨u, last, hfollow, hlast⟩ := Stateful.bind_ok_iff.mp hcall
          cases hlast
          exact call_walked hscript hcourse hfollow

end

end Codegen.Generation
