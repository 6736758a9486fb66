import Codegen.Generation.Hook
import Codegen.Proofs.Generation.Step

/-! What a request for a hook does to a run: the cases of its answer, and what holds of every answer
because it holds of marking, of writing events down and of the deeds of hooks. -/

namespace Codegen.Generation

open Codegen.Plugin

namespace Run

def marking (run : Run) (script : Script) (request : Request) : Run :=
  { run with
    scripts := run.scripts.set request.script (script.mark request.kind request.identity) }

/-- The script of the request is there, and its record says that the request was dealt with. -/
def Marked (run : Run) (request : Request) : Prop :=
  ∃ script, run.scripts[request.script]? = some script ∧
    script.hasRun request.kind request.identity = true

@[simp] theorem recording_scripts (run : Run) (event : Event) :
    (run.recording event).scripts = run.scripts := rfl

@[simp] theorem recording_journal (run : Run) (event : Event) :
    (run.recording event).journal = run.journal ++ [event] := rfl

theorem marked_congr {run after : Run} (h : after.scripts = run.scripts) (request : Request) :
    after.Marked request ↔ run.Marked request := by
  rw [Marked, Marked, h]

theorem marked_iff_hasRun {run : Run} {script : Script} {request : Request}
    (hscript : run.scripts[request.script]? = some script) :
    run.Marked request ↔ script.hasRun request.kind request.identity = true := by
  constructor
  · rintro ⟨found, hfound, hrun⟩
    rw [hscript] at hfound
    cases hfound
    exact hrun
  · intro hrun
    exact ⟨script, hscript, hrun⟩

theorem marked_marking_iff {run : Run} {script : Script} {request : Request}
    (hscript : run.scripts[request.script]? = some script) (other : Request) :
    (run.marking script request).Marked other ↔ other = request ∨ run.Marked other := by
  obtain ⟨number, kind, identity⟩ := request
  obtain ⟨number', kind', identity'⟩ := other
  have hbound : number < run.scripts.length := (List.getElem?_eq_some_iff.mp hscript).1
  by_cases hnumber : number' = number
  · subst hnumber
    have hmarked :
        (run.marking script ⟨number', kind, identity⟩).scripts[number']? =
          some (script.mark kind identity) :=
      List.getElem?_set_self hbound
    have hbefore : run.Marked ⟨number', kind', identity'⟩ ↔ script.hasRun kind' identity' = true :=
      marked_iff_hasRun hscript
    rw [marked_iff_hasRun hmarked, hbefore, Script.hasRun_mark_iff]
    simp
  · have hother :
        (run.marking script ⟨number, kind, identity⟩).scripts[number']? = run.scripts[number']? :=
      List.getElem?_set_ne (Ne.symm hnumber)
    simp only [Marked, hother, Request.mk.injEq, hnumber, false_and, false_or]

end Run

/-! The steps that a request is made of. -/

theorem run_scriptAt_some {run : Run} {number : Nat} {script : Script}
    (h : run.scripts[number]? = some script) :
    (scriptAt number).run run = (.ok script, run) := by
  simp only [scriptAt, Stateful.run_bind, Stateful.run_get, h]
  rfl

theorem run_scriptAt_none {run : Run} {number : Nat} (h : run.scripts[number]? = none) :
    ∃ failure, (scriptAt number).run run = (.error failure, run) := by
  refine ⟨.fault { kind := "IndexError", message := "list index out of range" }, ?_⟩
  simp only [scriptAt, Stateful.run_bind, Stateful.run_get, h]
  rfl

theorem exists_run_recordMissing (script : Script) (hook : String) (run : Run) :
    ∃ outcome missed advisories,
      (recordMissing script hook).run run = (outcome, { run with missed, advisories }) := by
  let key := (script.path.toString, hook)
  let message := s!"Script {script.name} has no {hook} hook"
  by_cases h : key ∈ run.missed
  · refine ⟨.ok (), run.missed, run.advisories, ?_⟩
    simp only [recordMissing, Stateful.run_bind, Stateful.run_get, show (_, hook) ∈ run.missed from h]
    rfl
  · have hnew : ¬ (script.path.toString, hook) ∈ run.missed := h
    cases hsay : Log.pluginsLogger.say run.desk.levels .debug message with
    | error failure =>
        refine ⟨.error failure, run.missed ++ [key], run.advisories, ?_⟩
        simp only [recordMissing, Stateful.run_bind, Stateful.run_get, hnew, if_false, Stateful.run_modify,
          run_say, show Log.pluginsLogger.say _ _ s!"Script {script.name} has no {hook} hook" = _
            from hsay]
        rfl
    | ok u =>
        refine ⟨.ok (), run.missed ++ [key], run.advisories ++ [⟨.missingHook, message⟩], ?_⟩
        simp only [recordMissing, Stateful.run_bind, Stateful.run_get, hnew, if_false, Stateful.run_modify,
          run_say, show Log.pluginsLogger.say _ _ s!"Script {script.name} has no {hook} hook" = _
            from hsay]
        rfl

/-! The cases of an answer. -/

/-- The outcome of a request and the run after it, case by case. Both depend on how hooks are begun
in the one case only that there is one to begin. -/
inductive Answered (conduct : Conduct) (request : Request) (value : Value) (run : Run) :
    ((Course → Step Unit) → Except Failure Bool × Run) → Prop
  | absent (failure : Failure) (hnone : run.scripts[request.script]? = none) :
      Answered conduct request value run fun _ => (.error failure, run)
  | done (hmarked : run.Marked request) :
      Answered conduct request value run fun _ =>
        (.ok false, run.recording (.asked request value .done))
  | missing (script : Script) (hscript : run.scripts[request.script]? = some script)
      (hmarked : ¬ run.Marked request)
      (hcourse : conduct.course? request.script script.plugin (hookName request.kind) = none)
      (outcome : Except Failure Bool) (houtcome : outcome ≠ .ok true)
      (missed : List (String × String)) (advisories : List Advisory) :
      Answered conduct request value run fun _ =>
        (outcome,
          { (run.marking script request).recording (.asked request value .missing) with
            missed, advisories })
  | unsaid (script : Script) (hscript : run.scripts[request.script]? = some script)
      (hmarked : ¬ run.Marked request) (failure : Failure) :
      Answered conduct request value run fun _ => (.error failure, run.marking script request)
  | begun (script : Script) (hscript : run.scripts[request.script]? = some script)
      (hmarked : ¬ run.Marked request) (course : List Value → Course)
      (hcourse : conduct.course? request.script script.plugin (hookName request.kind) = some course) :
      Answered conduct request value run fun begin_ =>
        (((begin_ (course [value])).run (run.marking script request)).1.map fun _ => true,
          ((begin_ (course [value])).run (run.marking script request)).2)

theorem answered (conduct : Conduct) (request : Request) (value : Value) (run : Run) :
    ∃ reply, Answered conduct request value run reply ∧
      ∀ begin_, (answerWith conduct begin_ request value).run run = reply begin_ := by
  cases hscript : run.scripts[request.script]? with
  | none =>
      obtain ⟨failure, hrun⟩ := run_scriptAt_none hscript
      refine ⟨_, .absent failure hscript, fun begin_ => ?_⟩
      rw [answerWith, Stateful.run_bind_error hrun]
  | some script =>
      have hfound := run_scriptAt_some hscript
      by_cases hrun : script.hasRun request.kind request.identity = true
      · refine ⟨_, .done ((Run.marked_iff_hasRun hscript).mpr hrun), fun begin_ => ?_⟩
        rw [answerWith, Stateful.run_bind_ok hfound]
        simp only [hrun, if_true]
        rfl
      · have hmarked : ¬ run.Marked request := by
          rw [Run.marked_iff_hasRun hscript]
          exact hrun
        have hmark : (mark script request).run run = (.ok (), run.marking script request) := rfl
        cases hcourse : conduct.course? request.script script.plugin (hookName request.kind) with
        | none =>
            obtain ⟨outcome, missed, advisories, hmissing⟩ :=
              exists_run_recordMissing script (hookName request.kind)
                ((run.marking script request).recording (.asked request value .missing))
            refine ⟨_, .missing script hscript hmarked hcourse (outcome.map fun _ => false) ?_ missed
              advisories, fun begin_ => ?_⟩
            · cases outcome <;> simp [Except.map]
            · rw [answerWith, Stateful.run_bind_ok hfound, if_neg hrun, Stateful.run_bind_ok hmark]
              simp only [hcourse]
              rw [Stateful.run_bind_ok (run_record _ _), Stateful.run_bind, hmissing]
              cases outcome <;> rfl
        | some course =>
            cases hsay : Log.pluginsLogger.say (run.marking script request).desk.levels .debug
                s!"Running {script.name}.{hookName request.kind} for {request.identity}" with
            | error failure =>
                refine ⟨_, .unsaid script hscript hmarked failure, fun begin_ => ?_⟩
                rw [answerWith, Stateful.run_bind_ok hfound, if_neg hrun, Stateful.run_bind_ok hmark]
                simp only [hcourse]
                rw [Stateful.run_bind_error ((run_say _ _ _ _).trans (by rw [hsay]))]
            | ok u =>
                refine ⟨_, .begun script hscript hmarked course hcourse, fun begin_ => ?_⟩
                rw [answerWith, Stateful.run_bind_ok hfound, if_neg hrun, Stateful.run_bind_ok hmark]
                simp only [hcourse]
                rw [Stateful.run_bind_ok ((run_say _ _ _ _).trans (by rw [hsay])), Stateful.run_bind]
                rcases (begin_ (course [value])).run (run.marking script request) with
                  ⟨outcome, after⟩
                cases outcome <;> rfl

/-! Relations kept by courses and answers. -/

variable {R : Run → Run → Prop}

/-- The course asks for no other hooks than those that are allowed. -/
def Course.AsksOnly (allowed : Request → Prop) : Course → Prop
  | finish _ => True
  | deed _ next => ∀ outcome run, (next outcome run).AsksOnly allowed
  | ask request _ next => allowed request ∧ ∀ answer, (next answer).AsksOnly allowed

theorem Course.asksOnly_true (course : Course) : course.AsksOnly fun _ => True := by
  induction course with
  | finish outcome => trivial
  | deed act next ih => exact ih
  | ask request value next ih => exact ⟨trivial, ih⟩

/-- A relation that is kept by the deeds of hooks and by all that a course may ask for is kept by
the course. -/
theorem Course.AsksOnly.follow_keeps [IsPreorder Run R] {allowed : Request → Prop} {course : Course}
    (hasks : course.AsksOnly allowed) {again : Request → Value → Step Bool}
    (hshare : ∀ run registry context, R run { run with registry, desk := { run.desk with context } })
    (hagain : ∀ request value, allowed request → (again request value).Keeps R) :
    (course.follow again).Keeps R := by
  induction course with
  | finish outcome => exact .lift outcome
  | deed act next ih =>
      have hact : act.shared.Keeps R := by
        intro run
        obtain ⟨outcome, registry, context, hrun⟩ := Step.exists_run_shared act run
        rw [hrun]
        exact hshare run registry context
      exact .bind hact fun outcome => .bind .get fun run => ih outcome run (hasks outcome run)
  | ask request value next ih =>
      exact .bind (hagain request value hasks.1).outcome fun answer => ih answer (hasks.2 answer)

theorem Course.follow_keeps [IsPreorder Run R] {again : Request → Value → Step Bool}
    (hshare : ∀ run registry context, R run { run with registry, desk := { run.desk with context } })
    (hagain : ∀ request value, (again request value).Keeps R) (course : Course) :
    (course.follow again).Keeps R :=
  course.asksOnly_true.follow_keeps hshare fun request value _ => hagain request value

/-- Relations that hold between the run before a request and the run after it, because they are kept
by all that its answer is made of. -/
structure KeptByRequest (conduct : Conduct) (request : Request) (R : Run → Run → Prop) : Prop where
  done : ∀ run value, run.Marked request → R run (run.recording (.asked request value .done))
  mark : ∀ run script, run.scripts[request.script]? = some script → ¬ run.Marked request →
    R run (run.marking script request)
  missing : ∀ run script value missed advisories,
    run.scripts[request.script]? = some script → ¬ run.Marked request →
    conduct.course? request.script script.plugin (hookName request.kind) = none →
    R run
      { (run.marking script request).recording (.asked request value .missing) with
        missed, advisories }
  begun : ∀ run script value course reply,
    run.scripts[request.script]? = some script → ¬ run.Marked request →
    conduct.course? request.script script.plugin (hookName request.kind) = some course →
    reply = .tooDeep ∨ reply = .entered →
    R run ((run.marking script request).recording (.asked request value reply))

structure KeptByRequests (conduct : Conduct) (R : Run → Run → Prop) : Prop where
  share : ∀ run registry context, R run { run with registry, desk := { run.desk with context } }
  request : ∀ request, KeptByRequest conduct request R

theorem answerWith_keeps [IsPreorder Run R] {conduct : Conduct} {request : Request}
    (hkept : KeptByRequest conduct request R) {begin_ : Course → Step Unit} {value : Value}
    (hbegun : ∀ run script course,
      run.scripts[request.script]? = some script → ¬ run.Marked request →
      conduct.course? request.script script.plugin (hookName request.kind) = some course →
      R run ((begin_ (course [value])).run (run.marking script request)).2) :
    (answerWith conduct begin_ request value).Keeps R := by
  intro run
  obtain ⟨reply, hanswered, hreply⟩ := answered conduct request value run
  rw [hreply]
  cases hanswered with
  | absent failure hnone => exact refl_of R run
  | done hmarked => exact hkept.done run value hmarked
  | missing script hscript hmarked hcourse outcome houtcome missed advisories =>
      exact hkept.missing run script value missed advisories hscript hmarked hcourse
  | unsaid script hscript hmarked failure => exact hkept.mark run script hscript hmarked
  | begun script hscript hmarked course hcourse =>
      exact hbegun run script course hscript hmarked hcourse

theorem answer_keeps [IsPreorder Run R] {conduct : Conduct} (hkept : KeptByRequests conduct R)
    (depth : Nat) (request : Request) (value : Value) :
    (answer conduct depth request value).Keeps R := by
  -- The hooks that a hook asks for lie one deeper, where the hypothesis holds of them.
  induction depth generalizing request value with
  | zero =>
      refine answerWith_keeps (hkept.request request) ?_
      intro run script course hscript hmarked hcourse
      exact (hkept.request request).begun run script value course .tooDeep hscript hmarked hcourse
        (.inl rfl)
  | succ depth ih =>
      refine answerWith_keeps (hkept.request request) ?_
      intro run script course hscript hmarked hcourse
      have hbegun := (hkept.request request).begun run script value course .entered hscript hmarked
        hcourse (.inr rfl)
      rw [beginHook, Stateful.run_bind_ok (run_record _ _)]
      exact trans_of R hbegun (Course.follow_keeps hkept.share ih (course [value]) _)

end Codegen.Generation
