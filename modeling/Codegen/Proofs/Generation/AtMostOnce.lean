import Codegen.Proofs.Generation.Request
import Mathlib.Data.Finset.Card
import Mathlib.Data.Finset.Filter

/-! Hooks are run at most once for each request, however they ask for one another and whatever they
raise. Marks are set before a hook begins and stay, so that the requests which are not yet marked
also bound how deep hooks lie in one another. -/

namespace Codegen.Generation

open Codegen.Plugin

/-- What was written down after a run was as far as `run`. -/
def Run.since (after run : Run) : List Event := after.journal.drop run.journal.length

theorem Run.since_eq {run after : Run} {events : List Event}
    (h : after.journal = run.journal ++ events) : after.since run = events := by
  rw [since, h, List.drop_left]

theorem Run.journal_append {run middle after : Run}
    (hfirst : middle.journal = run.journal ++ middle.since run)
    (hsecond : after.journal = middle.journal ++ after.since middle) :
    after.journal = run.journal ++ (middle.since run ++ after.since middle) := by
  rw [hsecond, hfirst, List.append_assoc]

theorem Run.since_append {run middle after : Run}
    (hfirst : middle.journal = run.journal ++ middle.since run)
    (hsecond : after.journal = middle.journal ++ after.since middle) :
    after.since run = middle.since run ++ after.since middle :=
  Run.since_eq (Run.journal_append hfirst hsecond)

@[simp] theorem Run.since_self (run : Run) : run.since run = [] :=
  List.drop_length

/-- The requests whose hooks were begun, in order. -/
def begun (events : List Event) : List Request := events.filterMap Event.entered?

/-- The requests that were made, up to the first whose hook lay too deep. -/
def askedInDepth : List Event → List Request
  | [] => []
  | event :: rest => event.request?.toList ++ if event.isTooDeep then [] else askedInDepth rest

/-- Calls made one after another. What one of them raises does not keep the others from being made. -/
def runOnceAll (conduct : Conduct) (calls : List (Request × Value)) :
    Step (List (Except Failure Bool)) :=
  calls.mapM fun (request, value) =>
    (runOnce request.script request.kind request.identity value conduct).outcome

/-! What a run has become while hooks were run. -/

/-- The run went on: events were added, marks were kept, and the hooks begun meanwhile are those of
different requests, marked by now and not marked before. -/
structure Progress (run after : Run) : Prop where
  journal : after.journal = run.journal ++ after.since run
  kept : ∀ request, run.Marked request → after.Marked request
  nodup : (begun (after.since run)).Nodup
  fresh : ∀ request ∈ begun (after.since run), ¬ run.Marked request
  marked : ∀ request ∈ begun (after.since run), after.Marked request

def Run.entering (run : Run) (script : Script) (request : Request) (value : Value) : Run :=
  (run.marking script request).recording (.asked request value .entered)

theorem Run.marked_entering_iff {run : Run} {script : Script} {request : Request} (value : Value)
    (hscript : run.scripts[request.script]? = some script) (other : Request) :
    (run.entering script request value).Marked other ↔ other = request ∨ run.Marked other :=
  Run.marked_marking_iff hscript other

namespace Progress

variable {run middle after : Run}

theorem of_events {events : List Event} (h : after.journal = run.journal ++ events)
    (hkept : ∀ request, run.Marked request → after.Marked request)
    (hnodup : (begun events).Nodup) (hfresh : ∀ request ∈ begun events, ¬ run.Marked request)
    (hmarked : ∀ request ∈ begun events, after.Marked request) : Progress run after := by
  have hsince := Run.since_eq h
  subst hsince
  exact ⟨h, hkept, hnodup, hfresh, hmarked⟩

theorem of_none_begun {events : List Event} (h : after.journal = run.journal ++ events)
    (hbegun : begun events = []) (hkept : ∀ request, run.Marked request → after.Marked request) :
    Progress run after := by
  refine of_events h hkept ?_ ?_ ?_ <;> simp [hbegun]

theorem of_scripts {events : List Event} (h : after.journal = run.journal ++ events)
    (hbegun : begun events = []) (hscripts : after.scripts = run.scripts) : Progress run after :=
  of_none_begun h hbegun fun request => (Run.marked_congr hscripts request).mpr

theorem since_trans (hfirst : Progress run middle) (hsecond : Progress middle after) :
    after.since run = middle.since run ++ after.since middle :=
  Run.since_append hfirst.journal hsecond.journal

theorem refl (run : Run) : Progress run run :=
  of_scripts (List.append_nil _).symm rfl rfl

theorem trans (hfirst : Progress run middle) (hsecond : Progress middle after) :
    Progress run after := by
  have hjournal := Run.journal_append hfirst.journal hsecond.journal
  have hbegun : begun (middle.since run ++ after.since middle) =
      begun (middle.since run) ++ begun (after.since middle) :=
    List.filterMap_append
  refine of_events hjournal (fun request h => hsecond.kept request (hfirst.kept request h)) ?_ ?_ ?_
  -- Hooks of the second part are of other requests: those of the first are marked by then.
  · rw [hbegun, List.nodup_append]
    refine ⟨hfirst.nodup, hsecond.nodup, ?_⟩
    intro request hrequest other hother heq
    subst heq
    exact hsecond.fresh request hother (hfirst.marked request hrequest)
  · intro request hrequest
    rcases List.mem_append.mp (hbegun ▸ hrequest) with h | h
    · exact hfirst.fresh request h
    · exact fun hmarked => hsecond.fresh request h (hfirst.kept request hmarked)
  · intro request hrequest
    rcases List.mem_append.mp (hbegun ▸ hrequest) with h | h
    · exact hsecond.kept request (hfirst.marked request h)
    · exact hsecond.marked request h

instance : IsPreorder Run Progress where
  refl := refl
  trans _ _ _ := trans

theorem marking {script : Script} {request : Request}
    (hscript : run.scripts[request.script]? = some script) :
    Progress run (run.marking script request) :=
  of_none_begun (List.append_nil _).symm rfl fun other h =>
    (Run.marked_marking_iff hscript other).mpr (.inr h)

theorem entering {script : Script} {request : Request} (value : Value)
    (hscript : run.scripts[request.script]? = some script) (hmarked : ¬ run.Marked request) :
    Progress run (run.entering script request value) := by
  have hjournal : (run.entering script request value).journal =
      run.journal ++ [.asked request value .entered] := rfl
  have hnow := Run.marked_entering_iff value hscript
  refine of_events hjournal ?_ ?_ ?_ ?_
  · exact fun other h => (hnow other).mpr (.inr h)
  · exact List.nodup_singleton request
  · intro other hother
    obtain rfl := List.mem_singleton.mp hother
    exact hmarked
  · intro other hother
    obtain rfl := List.mem_singleton.mp hother
    exact (hnow other).mpr (.inl rfl)

theorem keptByRequests (conduct : Conduct) : KeptByRequests conduct Progress where
  share _ _ _ := of_scripts (List.append_nil _).symm rfl rfl
  request request := {
    done _ _ _ := of_scripts rfl rfl rfl
    mark _ _ hscript _ := marking hscript
    missing _ _ _ _ _ hscript _ _ :=
      of_none_begun rfl rfl fun other h => (Run.marked_marking_iff hscript other).mpr (.inr h)
    begun run script value course reply hscript hmarked _ hreply := by
      obtain rfl | rfl := hreply
      · exact of_none_begun rfl rfl fun other h =>
          (Run.marked_marking_iff hscript other).mpr (.inr h)
      · exact entering value hscript hmarked }

end Progress

theorem answer_progress (conduct : Conduct) (depth : Nat) (request : Request) (value : Value) :
    (answer conduct depth request value).Keeps Progress :=
  answer_keeps (Progress.keptByRequests conduct) depth request value

theorem follow_progress (conduct : Conduct) (depth : Nat) (course : Course) :
    (course.follow (answer conduct depth)).Keeps Progress :=
  course.follow_keeps (Progress.keptByRequests conduct).share (answer_progress conduct depth)

theorem runOnceAll_progress (conduct : Conduct) (calls : List (Request × Value)) :
    (runOnceAll conduct calls).Keeps Progress := by
  refine Step.Keeps.mapM calls ?_
  rintro ⟨request, value⟩ -
  refine Step.Keeps.outcome (.bind ?_ fun _ => .bind .get ?_)
  · exact fun run => Progress.of_scripts rfl rfl rfl
  · intro run
    exact answer_progress conduct (conduct.depth run.scripts) _ value

theorem run_beginHook_succ (conduct : Conduct) (depth : Nat) (request : Request) (value : Value)
    (course : Course) (run : Run) (script : Script) :
    (beginHook conduct (depth + 1) request value course).run (run.marking script request) =
      (course.follow (answer conduct depth)).run (run.entering script request value) := by
  rw [beginHook, Stateful.run_bind_ok (run_record _ _)]
  rfl

theorem since_follow_entering (conduct : Conduct) (depth : Nat) (course : Course) {run after : Run}
    {script : Script} {request : Request} {value : Value} {outcome : Except Failure Unit}
    (hscript : run.scripts[request.script]? = some script) (hmarked : ¬ run.Marked request)
    (h : (course.follow (answer conduct depth)).run (run.entering script request value) =
      (outcome, after)) :
    after.since run =
      .asked request value .entered :: after.since (run.entering script request value) := by
  have hbegun := Progress.entering value hscript hmarked
  have hfollow := (follow_progress conduct depth course).of_run h
  have hnoted : (run.entering script request value).since run = [.asked request value .entered] :=
    Run.since_eq rfl
  rw [hbegun.since_trans hfollow, hnoted]
  rfl

/-! What the answer to a single request tells. -/

theorem answer_marked (conduct : Conduct) (depth : Nat) {request : Request} (value : Value)
    {run : Run} (hmarked : run.Marked request) :
    (answer conduct depth request value).run run =
      (.ok false, run.recording (.asked request value .done)) := by
  obtain ⟨reply, hanswered, hreply⟩ := answered conduct request value run
  rw [answer, hreply]
  cases hanswered with
  | absent failure hnone =>
      obtain ⟨script, hscript, _⟩ := hmarked
      rw [hnone] at hscript
      cases hscript
  | done _ => rfl
  | missing script hscript hnot => exact absurd hmarked hnot
  | unsaid script hscript hnot => exact absurd hmarked hnot
  | begun script hscript hnot => exact absurd hmarked hnot

/-- A call that returns begins by writing down how the request is answered: it returns true when it
entered the hook itself; otherwise, nothing else happens. -/
theorem answer_returned (conduct : Conduct) (depth : Nat) {request : Request} {value : Value}
    {run after : Run} {ran : Bool}
    (h : (answer conduct depth request value).run run = (.ok ran, after)) :
    ∃ reply rest, after.since run = .asked request value reply :: rest ∧
      (ran = true ↔ reply = .entered) ∧ (ran = false → rest = []) := by
  obtain ⟨reply, hanswered, hreply⟩ := answered conduct request value run
  rw [answer, hreply] at h
  cases hanswered with
  | absent failure hnone => cases h
  | done hmarked =>
      cases h
      exact ⟨.done, [], Run.since_eq rfl, by simp, fun _ => rfl⟩
  | missing script hscript hmarked hcourse outcome houtcome missed advisories =>
      cases h
      refine ⟨.missing, [], Run.since_eq rfl, ?_, fun _ => rfl⟩
      simpa using houtcome
  | unsaid script hscript hmarked failure => cases h
  | begun script hscript hmarked course hcourse =>
      cases depth with
      | zero => cases h
      | succ depth =>
          simp only [run_beginHook_succ] at h
          rcases hfollow : ((course [value]).follow (answer conduct depth)).run
            (run.entering script request value) with ⟨outcome, finished⟩
          simp only [hfollow] at h
          cases outcome with
          | error failure => cases h
          | ok u =>
              cases h
              exact ⟨.entered, _, since_follow_entering conduct depth _ hscript hmarked hfollow,
                by simp, by simp⟩

/-! How deep hooks lie in one another. -/

open Classical in
noncomputable def Run.unmarked (run : Run) (requests : Finset Request) : Finset Request :=
  requests.filter fun request => ¬ run.Marked request

theorem Run.unmarked_card_le (run : Run) (requests : Finset Request) :
    (run.unmarked requests).card ≤ requests.card := by
  classical
  exact Finset.card_filter_le _ _

theorem Progress.unmarked_card_le {run after : Run} (h : Progress run after)
    (requests : Finset Request) :
    (after.unmarked requests).card ≤ (run.unmarked requests).card := by
  classical
  refine Finset.card_le_card ?_
  intro request hrequest
  obtain ⟨hmem, hmarked⟩ := Finset.mem_filter.mp hrequest
  exact Finset.mem_filter.mpr ⟨hmem, fun hbefore => hmarked (h.kept request hbefore)⟩

theorem Run.unmarked_entering_card_lt {run : Run} {script : Script} {request : Request}
    (value : Value) (hscript : run.scripts[request.script]? = some script)
    (hmarked : ¬ run.Marked request) {requests : Finset Request} (hmem : request ∈ requests) :
    ((run.entering script request value).unmarked requests).card <
      (run.unmarked requests).card := by
  classical
  have hnow := Run.marked_entering_iff value hscript
  refine Finset.card_lt_card ⟨?_, ?_⟩
  · intro other hother
    obtain ⟨hin, hnot⟩ := Finset.mem_filter.mp hother
    rw [hnow, not_or] at hnot
    exact Finset.mem_filter.mpr ⟨hin, hnot.2⟩
  · intro hsubset
    obtain ⟨-, hnot⟩ := Finset.mem_filter.mp (hsubset (Finset.mem_filter.mpr ⟨hmem, hmarked⟩))
    exact hnot ((hnow request).mpr (.inl rfl))

theorem askedInDepth_subset_append (first second : List Event) :
    askedInDepth first ⊆ askedInDepth (first ++ second) := by
  induction first with
  | nil => exact List.nil_subset _
  | cons event rest ih =>
      rw [List.cons_append, askedInDepth, askedInDepth]
      refine List.append_subset.mpr ⟨List.subset_append_left _ _, ?_⟩
      refine List.Subset.trans ?_ (List.subset_append_right _ _)
      split
      · exact List.nil_subset _
      · exact ih

theorem askedInDepth_append {first : List Event}
    (hfirst : ∀ event ∈ first, event.isTooDeep = false) (second : List Event) :
    askedInDepth (first ++ second) = askedInDepth first ++ askedInDepth second := by
  induction first with
  | nil => rfl
  | cons event rest ih =>
      have hevent := hfirst event List.mem_cons_self
      have hrest := ih fun other h => hfirst other (List.mem_cons_of_mem event h)
      simp [askedInDepth, hevent, hrest]

/-- A depth suffices for a run of a step: nothing lies too deep, and more depth comes to the same. -/
structure Suffices {α : Type} (step : Nat → Step α) (depth : Nat) (run : Run) : Prop where
  inDepth : ∀ event ∈ ((step depth).run run).2.since run, event.isTooDeep = false
  stable : ∀ more, (step (depth + more)).run run = (step depth).run run

theorem Suffices.eq_of_le {α : Type} {step : Nat → Step α} {depth greater : Nat} {run : Run}
    (h : Suffices step depth run) (hle : depth ≤ greater) :
    (step greater).run run = (step depth).run run := by
  obtain ⟨more, rfl⟩ := Nat.exists_eq_add_of_le hle
  exact h.stable more

/-- Among finitely many requests, a depth suffices for a step wherever no more of them than that are
unmarked. -/
structure Settles {α : Type} (requests : Finset Request) (depth : Nat) (step : Nat → Step α) :
    Prop where
  progress : ∀ depth, (step depth).Keeps Progress
  suffices_ : ∀ run, (run.unmarked requests).card ≤ depth →
    (∀ asked ∈ askedInDepth (((step depth).run run).2.since run), asked ∈ requests) →
    Suffices step depth run

namespace Settles

variable {α β : Type} {requests : Finset Request} {depth : Nat}

theorem of_silent {step : Step α} (hscripts : ∀ run, (step.run run).2.scripts = run.scripts)
    (hjournal : ∀ run, (step.run run).2.journal = run.journal) :
    Settles requests depth fun _ => step := by
  have hsince : ∀ run, (step.run run).2.since run = [] := by
    intro run
    apply Run.since_eq
    rw [hjournal, List.append_nil]
  constructor
  · intro _ run
    exact .of_scripts (by rw [hjournal, List.append_nil]) rfl (hscripts run)
  · intro run _ _
    exact ⟨by simp [hsince], fun _ => rfl⟩

theorem of_idle {step : Step α} (h : step.Keeps Eq) : Settles requests depth fun _ => step :=
  of_silent (fun run => congrArg Run.scripts (h run).symm)
    fun run => congrArg Run.journal (h run).symm

theorem record {event : Event} (h : event.request? = none) :
    Settles requests depth fun _ => Generation.record event := by
  have hinDepth : event.isTooDeep = false := by
    cases event with
    | asked request value answer => cases h
    | _ => rfl
  constructor
  · intro _ run
    refine .of_scripts rfl ?_ rfl
    cases event with
    | asked request value answer => cases h
    | _ => rfl
  · intro run _ _
    refine ⟨?_, fun _ => rfl⟩
    rw [run_record, Run.since_eq (run.recording_journal event)]
    intro other hother
    rwa [List.mem_singleton.mp hother]

theorem outcome {step : Nat → Step α} (h : Settles requests depth step) :
    Settles requests depth fun depth => (step depth).outcome := by
  refine ⟨h.progress, fun run hfew hasked => ?_⟩
  obtain ⟨hinDepth, hstable⟩ := h.suffices_ run hfew hasked
  refine ⟨hinDepth, fun more => ?_⟩
  rw [Step.run_outcome, Step.run_outcome, hstable]

theorem bind {step : Nat → Step α} {next : α → Nat → Step β} (hstep : Settles requests depth step)
    (hnext : ∀ x, Settles requests depth (next x)) :
    Settles requests depth fun depth => step depth >>= fun x => next x depth := by
  refine ⟨fun d => .bind (hstep.progress d) fun x => (hnext x).progress d, ?_⟩
  intro run hfew hasked
  have hfirst := hstep.progress depth run
  rcases hrun : (step depth).run run with ⟨result, middle⟩
  rw [hrun] at hfirst
  cases result with
  | error failure =>
      have hbind : ∀ d, (step d).run run = (.error failure, middle) →
          (step d >>= fun x => next x d).run run = (.error failure, middle) :=
        fun _ h => Stateful.run_bind_error h _
      rw [hbind depth hrun] at hasked
      obtain ⟨hinDepth, hstable⟩ := hstep.suffices_ run hfew (by rw [hrun]; exact hasked)
      refine ⟨?_, fun more => ?_⟩
      · rw [hbind depth hrun]
        simpa only [hrun] using hinDepth
      · rw [hbind depth hrun, hbind (depth + more) ((hstable more).trans hrun)]
  | ok x =>
      have hbind : ∀ d, (step d).run run = (.ok x, middle) →
          (step d >>= fun x => next x d).run run = (next x d).run middle :=
        fun _ h => Stateful.run_bind_ok h _
      have hsecond := (hnext x).progress depth middle
      rw [hbind depth hrun, hfirst.since_trans hsecond] at hasked
      obtain ⟨hinDepth, hstable⟩ := hstep.suffices_ run hfew (by
        rw [hrun]
        exact fun asked h => hasked asked (askedInDepth_subset_append _ _ h))
      rw [hrun] at hinDepth
      -- Marks stay, so that no more requests are unmarked before the second part.
      obtain ⟨hinDepth', hstable'⟩ := (hnext x).suffices_ middle
        (le_trans (hfirst.unmarked_card_le requests) hfew) (by
          intro asked h
          apply hasked
          rw [askedInDepth_append hinDepth]
          exact List.mem_append_right _ h)
      refine ⟨?_, fun more => ?_⟩
      · rw [hbind depth hrun, hfirst.since_trans hsecond]
        intro event hevent
        rcases List.mem_append.mp hevent with h | h
        · exact hinDepth event h
        · exact hinDepth' event h
      · rw [hbind depth hrun, hbind (depth + more) ((hstable more).trans hrun)]
        exact hstable' more

theorem mapM {step : α → Nat → Step β} (h : ∀ x, Settles requests depth (step x)) (xs : List α) :
    Settles requests depth fun depth => xs.mapM fun x => step x depth := by
  induction xs with
  | nil => exact of_idle (.pure [])
  | cons x rest ih =>
      simp only [List.mapM_cons]
      exact bind (h x) fun y => bind ih fun ys => of_idle (.pure (y :: ys))

theorem follow {conduct : Conduct}
    (hagain : ∀ request value,
      Settles requests depth fun depth => answer conduct depth request value) (course : Course) :
    Settles requests depth fun depth => course.follow (answer conduct depth) := by
  induction course with
  | finish outcome => exact of_idle (.lift outcome)
  | deed act next ih =>
      refine bind (of_silent ?_ ?_) fun outcome => bind (of_idle .get) fun run => ih outcome run
      all_goals
        intro run
        obtain ⟨outcome, registry, context, hrun⟩ := Step.exists_run_shared act run
        rw [hrun]
  | ask request value next ih => exact bind (hagain request value).outcome ih

end Settles

theorem answer_suffices_of_begun {conduct : Conduct} {depth : Nat} {request : Request}
    {value : Value} {run : Run}
    (hbegun : ∀ script course, run.scripts[request.script]? = some script → ¬ run.Marked request →
      ((answer conduct depth request value).run run).2 =
        ((beginHook conduct depth request value course).run (run.marking script request)).2 →
      (∀ event ∈ ((answer conduct depth request value).run run).2.since run,
        event.isTooDeep = false) ∧
      ∀ more, (beginHook conduct (depth + more) request value course).run
          (run.marking script request) =
        (beginHook conduct depth request value course).run (run.marking script request)) :
    Suffices (fun depth => answer conduct depth request value) depth run := by
  obtain ⟨reply, hanswered, hreply⟩ := answered conduct request value run
  have hrun : ∀ depth, (answer conduct depth request value).run run =
      reply (beginHook conduct depth request value) := fun _ => hreply _
  cases hanswered with
  | absent failure hnone =>
      refine ⟨?_, fun more => by rw [hrun, hrun]⟩
      simp [hrun]
  | done hmarked =>
      refine ⟨?_, fun more => by rw [hrun, hrun]⟩
      simp only [hrun]
      rw [Run.since_eq rfl]
      simp [Event.isTooDeep]
  | missing script hscript hmarked hcourse outcome houtcome missed advisories =>
      refine ⟨?_, fun more => by rw [hrun, hrun]⟩
      simp only [hrun]
      rw [Run.since_eq rfl]
      simp [Event.isTooDeep]
  | unsaid script hscript hmarked failure =>
      refine ⟨?_, fun more => by rw [hrun, hrun]⟩
      have hsince : (run.marking script request).since run = [] :=
        Run.since_eq (List.append_nil _).symm
      simp [hrun, hsince]
  | begun script hscript hmarked course hcourse =>
      obtain ⟨hinDepth, hstable⟩ := hbegun script (course [value]) hscript hmarked
        (by rw [hrun])
      refine ⟨hinDepth, fun more => ?_⟩
      simp only [hrun, hstable more]

/-- When all that is asked for lies in a finite set of requests, hooks lie no deeper in one another
than there are requests not yet marked: each hook that is begun marks one of them. -/
theorem answer_settles (conduct : Conduct) (requests : Finset Request) (depth : Nat)
    (request : Request) (value : Value) :
    Settles requests depth fun depth => answer conduct depth request value := by
  refine ⟨fun depth => answer_progress conduct depth request value, ?_⟩
  induction depth generalizing request value with
  | zero =>
      intro run hfew hasked
      refine answer_suffices_of_begun ?_
      intro script course hscript hmarked hafter
      have hsince : ((answer conduct 0 request value).run run).2.since run =
          [.asked request value .tooDeep] := by
        rw [hafter]
        exact Run.since_eq rfl
      rw [hsince] at hasked
      have hmem : request ∈ requests := hasked request List.mem_cons_self
      -- The request itself is unmarked, which is one more than there may be.
      have hlt := Run.unmarked_entering_card_lt value hscript hmarked hmem
      omega
  | succ depth ih =>
      intro run hfew hasked
      refine answer_suffices_of_begun ?_
      intro script course hscript hmarked hafter
      rw [run_beginHook_succ] at hafter
      have hsince : ((answer conduct (depth + 1) request value).run run).2.since run =
          .asked request value .entered ::
            ((course.follow (answer conduct depth)).run
              (run.entering script request value)).2.since (run.entering script request value) := by
        rw [hafter]
        exact since_follow_entering conduct depth course hscript hmarked rfl
      rw [hsince] at hasked ⊢
      have hmem : request ∈ requests := hasked request List.mem_cons_self
      have hlt := Run.unmarked_entering_card_lt value hscript hmarked hmem
      have hagain : ∀ request value,
          Settles requests depth fun depth => answer conduct depth request value :=
        fun request value =>
          ⟨fun depth => answer_progress conduct depth request value, ih request value⟩
      obtain ⟨hinDepth, hstable⟩ := (Settles.follow hagain course).suffices_
        (run.entering script request value) (by omega)
        fun asked h => hasked asked (List.mem_cons_of_mem _ h)
      refine ⟨?_, fun more => ?_⟩
      · intro event hevent
        rcases List.mem_cons.mp hevent with rfl | h
        · rfl
        · exact hinDepth event h
      · rw [Nat.add_right_comm, run_beginHook_succ, run_beginHook_succ]
        exact hstable more

/-- Hooks behave as before, and `depth` of them may be open one inside the other. -/
def Conduct.within (conduct : Conduct) (depth : Nat) : Conduct :=
  { conduct with depth := fun _ => depth }

@[simp] theorem Conduct.within_course? (conduct : Conduct) (depth number : Nat) (plugin : Plugin)
    (hook : String) :
    (conduct.within depth).course? number plugin hook = conduct.course? number plugin hook := rfl

@[simp] theorem Conduct.within_depth (conduct : Conduct) (depth : Nat) (scripts : List Script) :
    (conduct.within depth).depth scripts = depth := rfl

theorem beginHook_within (conduct : Conduct) (bound depth : Nat) :
    beginHook (conduct.within bound) depth = beginHook conduct depth := by
  induction depth with
  | zero => rfl
  | succ depth ih =>
      funext request value course
      rw [beginHook, beginHook, ih]
      rfl

theorem answer_within (conduct : Conduct) (bound depth : Nat) :
    answer (conduct.within bound) depth = answer conduct depth := by
  funext request value
  rw [answer, answer, beginHook_within]
  rfl

theorem runOnce_settles (conduct : Conduct) (requests : Finset Request) (depth number : Nat)
    (kind name : String) (value : Value) :
    Settles requests depth fun depth => runOnce number kind name value (conduct.within depth) := by
  refine .bind (.record rfl) fun _ => .bind (.of_idle .get) fun run => ?_
  simp only [answer_within]
  exact answer_settles conduct requests depth _ value

theorem runOnceAll_settles (conduct : Conduct) (requests : Finset Request) (depth : Nat)
    (calls : List (Request × Value)) :
    Settles requests depth fun depth => runOnceAll (conduct.within depth) calls :=
  .mapM (fun (request, value) =>
    (runOnce_settles conduct requests depth request.script request.kind request.identity
      value).outcome) calls

/-- Hooks may ask for one another as they like, and may raise. Over any calls made one after another,
each hook is begun at most once for an identity, not at all for one that was marked, and marks stay.
Any single call, one that a hook makes included, returns true when it began the hook itself and
otherwise does nothing. When finitely many requests are ever made, no more hooks than there are
requests need to be open one inside the other for every call to come to an end. -/
theorem runOnce_atMostOnce (conduct : Conduct) :
    (∀ calls run,
      let after := ((runOnceAll conduct calls).run run).2
      (begun (after.since run)).Nodup ∧
        (∀ request ∈ begun (after.since run), ¬ run.Marked request) ∧
        ∀ request, run.Marked request → after.Marked request) ∧
    (∀ depth request value run,
      let (outcome, after) := (answer conduct depth request value).run run
      (run.Marked request →
        outcome = .ok false ∧ after = run.recording (.asked request value .done)) ∧
      (∀ ran, outcome = .ok ran →
        ∃ reply rest, after.since run = .asked request value reply :: rest ∧
          (ran = true ↔ reply = .entered) ∧ (ran = false → rest = [])) ∧
      ∀ other, run.Marked other → after.Marked other) ∧
    ∀ calls run depth (requests : Finset Request), requests.card ≤ depth →
      (∀ asked ∈
        askedInDepth (((runOnceAll (conduct.within depth) calls).run run).2.since run),
          asked ∈ requests) →
      Suffices (fun depth => runOnceAll (conduct.within depth) calls) depth run := by
  refine ⟨?_, ?_, ?_⟩
  · intro calls run
    have hprogress := runOnceAll_progress conduct calls run
    exact ⟨hprogress.nodup, hprogress.fresh, hprogress.kept⟩
  · intro depth request value run
    rcases hrun : (answer conduct depth request value).run run with ⟨outcome, after⟩
    refine ⟨?_, ?_, ?_⟩
    · intro hmarked
      rw [answer_marked conduct depth value hmarked] at hrun
      cases hrun
      exact ⟨rfl, rfl⟩
    · rintro ran rfl
      exact answer_returned conduct depth hrun
    · have hprogress := answer_progress conduct depth request value run
      rw [hrun] at hprogress
      exact hprogress.kept
  · intro calls run depth requests hcard hasked
    have hfew := le_trans (run.unmarked_card_le requests) hcard
    exact (runOnceAll_settles conduct requests depth calls).suffices_ run hfew hasked

/-- Two scripts whose hooks ask for themselves and for each other; the first raises in the end. -/
def entangled : List Script :=
  let own : Action := .runOnce 0 "Class" "a.B"
  let other : Action := .runOnce 1 "Class" "a.B"
  [{ name := "own", path := .ofString "/p/own.py"
     plugin := { hooks := [("init_class", [own, other, .raise { kind := "ValueError", message := "stop" }])] } },
   { name := "other", path := .ofString "/p/other.py"
     plugin := { hooks := [("init_class", [own, other, .append "trace" "\x7b\x7d"])] } }]

theorem runOnce_atMostOnce_entangled :
    let run : Run := { scripts := entangled, desk := ⟨⟨.empty, []⟩, [], [], {}⟩ }
    let calls : List (Request × Value) := [(⟨0, "Class", "a.B"⟩, .null), (⟨1, "Class", "a.B"⟩, .null)]
    let after := ((runOnceAll (Conduct.ofPlugins.within 2) calls).run run).2
    begun (after.since run) = [⟨0, "Class", "a.B"⟩, ⟨1, "Class", "a.B"⟩] ∧
      (begun (after.since run)).Nodup ∧
      Suffices (fun depth => runOnceAll (Conduct.ofPlugins.within depth) calls) 2 run := by
  intro run calls after
  refine ⟨by decide +kernel, ?_, ?_⟩
  · exact ((runOnce_atMostOnce (Conduct.ofPlugins.within 2)).1 calls run).1
  · refine (runOnce_atMostOnce Conduct.ofPlugins).2.2 calls run 2
      {⟨0, "Class", "a.B"⟩, ⟨1, "Class", "a.B"⟩} (by decide) ?_
    decide +kernel

end Codegen.Generation
