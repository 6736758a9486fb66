import Codegen.Failure.Basic
import Mathlib.Order.Defs.Unbundled
import Mathlib.Tactic.Common

/-! Outcomes that are answers or failures, and how steps that change a state are composed. A step that fails
keeps what was done before. -/

namespace Codegen

theorem ok_of_toOption {α ε : Type} {outcome : Except ε α} {x : α} (h : outcome.toOption = some x) :
    outcome = .ok x := by
  cases outcome <;> cases h
  rfl

/-! Outcomes one after another. -/

namespace Outcome

variable {α β ε : Type} {outcome : Except ε α} {next : α → Except ε β} {failure : ε}

theorem bind_ok_iff {y : β} : outcome >>= next = .ok y ↔ ∃ x, outcome = .ok x ∧ next x = .ok y := by
  cases outcome <;> simp [bind, Except.bind]

theorem bind_error_iff : outcome >>= next = .error failure ↔
    outcome = .error failure ∨ ∃ x, outcome = .ok x ∧ next x = .error failure := by
  cases outcome <;> simp [bind, Except.bind]

end Outcome

/-! Choosing by a question that may go unanswered. -/

section

variable {α : Type} {ε : Type} {p : α → Except ε Bool} {xs : List α}

theorem filterAuxM_ok (h : ∀ x ∈ xs, ∃ answer, p x = .ok answer) (taken : List α) :
    ∃ chosen, xs.filterAuxM p taken = .ok (chosen.reverse ++ taken) ∧ List.Sublist chosen xs ∧
      ∀ x, x ∈ chosen ↔ x ∈ xs ∧ p x = .ok true := by
  induction xs generalizing taken with
  | nil => exact ⟨[], rfl, .slnil, by simp⟩
  | cons first rest ih =>
      obtain ⟨⟨answer, hfirst⟩, hrest⟩ := List.forall_mem_cons.mp h
      cases answer with
      | false =>
          obtain ⟨chosen, hchosen, hsub, hmem⟩ := ih hrest taken
          refine ⟨chosen, ?_, hsub.cons first, fun x => ?_⟩
          · rw [List.filterAuxM, hfirst]
            exact hchosen
          · rw [hmem, List.mem_cons]
            refine and_congr_left fun hx => ⟨.inr, ?_⟩
            rintro (rfl | hx')
            · rw [hfirst] at hx
              cases hx
            · exact hx'
      | true =>
          obtain ⟨chosen, hchosen, hsub, hmem⟩ := ih hrest (first :: taken)
          refine ⟨first :: chosen, ?_, hsub.cons_cons first, fun x => ?_⟩
          · rw [List.filterAuxM, hfirst, List.reverse_cons, List.append_assoc]
            exact hchosen
          · rw [List.mem_cons, List.mem_cons, hmem, or_and_right]
            refine or_congr_left ⟨fun hx => ⟨hx, hx ▸ hfirst⟩, And.left⟩

theorem filterM_ok (h : ∀ x ∈ xs, ∃ answer, p x = .ok answer) :
    ∃ chosen, xs.filterM p = .ok chosen ∧ List.Sublist chosen xs ∧ ∀ x, x ∈ chosen ↔ x ∈ xs ∧ p x = .ok true := by
  obtain ⟨chosen, hchosen, hsub, hmem⟩ := filterAuxM_ok h []
  refine ⟨chosen, ?_, hsub, hmem⟩
  rw [List.filterM, hchosen, List.append_nil]
  show Except.ok chosen.reverse.reverse = _
  rw [List.reverse_reverse]

theorem filterM_error {x : α} {e : ε} (hx : x ∈ xs) (h : p x = .error e) :
    ∃ y ∈ xs, ∃ e', p y = .error e' ∧ xs.filterM p = .error e' := by
  suffices haux : ∀ taken, ∃ y ∈ xs, ∃ e', p y = .error e' ∧ xs.filterAuxM p taken = .error e' by
    obtain ⟨y, hy, e', hfailed, heq⟩ := haux []
    exact ⟨y, hy, e', hfailed, by rw [List.filterM, heq]; rfl⟩
  induction xs with
  | nil => cases hx
  | cons first rest ih =>
      intro taken
      cases hfirst : p first with
      | error e' =>
          refine ⟨first, List.mem_cons_self, e', hfirst, ?_⟩
          rw [List.filterAuxM, hfirst]
          rfl
      | ok answer =>
          have hrest : x ∈ rest := by
            rcases List.mem_cons.mp hx with rfl | hrest
            · rw [hfirst] at h
              cases h
            · exact hrest
          obtain ⟨y, hy, e', hfailed, heq⟩ := ih hrest (cond answer (first :: taken) taken)
          refine ⟨y, List.mem_cons_of_mem first hy, e', hfailed, ?_⟩
          rw [List.filterAuxM, hfirst]
          exact heq

theorem filterM_mem {chosen : List α} (h : xs.filterM p = .ok chosen) {x : α} (hx : x ∈ chosen) :
    x ∈ xs ∧ p x = .ok true := by
  by_cases hanswered : ∀ x ∈ xs, ∃ answer, p x = .ok answer
  · obtain ⟨found, hfound, -, hmem⟩ := filterM_ok hanswered
    obtain rfl := Except.ok.inj (hfound.symm.trans h)
    exact (hmem x).mp hx
  · push Not at hanswered
    obtain ⟨y, hy, hnone⟩ := hanswered
    cases hask : p y with
    | ok answer => exact absurd hask (hnone answer)
    | error failure =>
        obtain ⟨-, -, failure, -, hfailed⟩ := filterM_error hy hask
        cases hfailed.symm.trans h

end

abbrev Stateful (σ α : Type) := ExceptT Failure (StateM σ) α

namespace Stateful

variable {σ α β : Type} {state after : σ}

@[simp] theorem run_pure (x : α) (state : σ) :
    (pure x : Stateful σ α).run state = (.ok x, state) := rfl

@[simp] theorem run_throw (failure : Failure) (state : σ) :
    (throw failure : Stateful σ α).run state = (.error failure, state) := rfl

theorem run_bind (step : Stateful σ α) (next : α → Stateful σ β) (state : σ) :
    (step >>= next).run state =
      match step.run state with
      | (.ok x, after) => (next x).run after
      | (.error failure, after) => (.error failure, after) := by
  show (ExceptT.bind step next) state = _
  simp only [ExceptT.run, ExceptT.bind, ExceptT.mk, bind, StateT.bind]
  rcases (step : StateT σ Id (Except Failure α)) state with ⟨outcome, after⟩
  cases outcome <;> rfl

theorem run_bind_ok {step : Stateful σ α} {x : α} (h : step.run state = (.ok x, after))
    (next : α → Stateful σ β) : (step >>= next).run state = (next x).run after := by
  rw [run_bind, h]

theorem run_bind_error {step : Stateful σ α} {failure : Failure}
    (h : step.run state = (.error failure, after)) (next : α → Stateful σ β) :
    (step >>= next).run state = (.error failure, after) := by
  rw [run_bind, h]

theorem bind_ok_iff {step : Stateful σ α} {next : α → Stateful σ β} {y : β} :
    (step >>= next).run state = (.ok y, after) ↔
      ∃ x middle, step.run state = (.ok x, middle) ∧ (next x).run middle = (.ok y, after) := by
  rw [run_bind]
  rcases h : step.run state with ⟨outcome, middle⟩
  cases outcome with
  | error failure =>
      constructor
      · intro hnext
        cases hnext
      · rintro ⟨x, middle', heq, hnext⟩
        cases heq
  | ok x =>
      constructor
      · intro hnext
        exact ⟨x, middle, rfl, hnext⟩
      · rintro ⟨x', middle', heq, hnext⟩
        cases heq
        exact hnext

theorem bind_error_iff {step : Stateful σ α} {next : α → Stateful σ β} {failure : Failure} :
    (step >>= next).run state = (.error failure, after) ↔
      step.run state = (.error failure, after) ∨
        ∃ x middle, step.run state = (.ok x, middle) ∧
          (next x).run middle = (.error failure, after) := by
  rw [run_bind]
  rcases h : step.run state with ⟨outcome, middle⟩
  cases outcome with
  | error other =>
      constructor
      · intro heq
        cases heq
        exact .inl rfl
      · rintro (heq | ⟨x, middle', heq, hnext⟩)
        · cases heq
          rfl
        · cases heq
  | ok x =>
      constructor
      · exact fun hnext => .inr ⟨x, middle, rfl, hnext⟩
      · rintro (heq | ⟨x', middle', heq, hnext⟩)
        · cases heq
        · cases heq
          exact hnext

@[simp] theorem run_get (state : σ) : (get : Stateful σ σ).run state = (.ok state, state) := rfl

@[simp] theorem run_set (state after : σ) :
    (set after : Stateful σ Unit).run state = (.ok (), after) := rfl

@[simp] theorem run_modify (change : σ → σ) (state : σ) :
    (modify change : Stateful σ Unit).run state = (.ok (), change state) := rfl

@[simp] theorem run_tryCatch (step : Stateful σ α) (handler : Failure → Stateful σ α) (state : σ) :
    (tryCatch step handler).run state =
      match step.run state with
      | (.ok x, after) => (.ok x, after)
      | (.error failure, after) => (handler failure).run after := by
  show (ExceptT.tryCatch step handler) state = _
  simp only [ExceptT.run, ExceptT.tryCatch, ExceptT.mk, bind, StateT.bind]
  rcases (step : StateT σ Id (Except Failure α)) state with ⟨outcome, after⟩
  cases outcome <;> rfl

/-- What each of several steps carries on from the steps before it and from their answers holds when all of them
succeed. -/
theorem mapM_ok_answers {step : α → Stateful σ β} {xs : List α} {ys : List β} (P : List α → List β → σ → Prop)
    (hstep : ∀ done answers x y state after, x ∈ xs → y ∈ ys → P done answers state →
      (step x).run state = (.ok y, after) → P (done ++ [x]) (answers ++ [y]) after)
    (hstart : P [] [] state) (h : (xs.mapM step).run state = (.ok ys, after)) : P xs ys after := by
  -- The induction is on what is left of the list, for any list that was gone through before.
  suffices hgeneral : ∀ rest done state answers zs, (∀ x ∈ rest, x ∈ xs) → (∀ z ∈ zs, z ∈ ys) →
      P done answers state → (rest.mapM step).run state = (.ok zs, after) →
        P (done ++ rest) (answers ++ zs) after from
    hgeneral xs [] state [] ys (fun _ hx => hx) (fun _ hz => hz) hstart h
  intro rest
  induction rest with
  | nil =>
      intro done state answers zs _ _ hdone hrun
      cases hrun
      rwa [List.reverse_nil, List.append_nil, List.append_nil]
  | cons x rest ih =>
      intro done state answers zs hmem hanswers hdone hrun
      rw [List.mapM_cons, bind_ok_iff] at hrun
      obtain ⟨y, middle, hx, hrest⟩ := hrun
      rw [bind_ok_iff] at hrest
      obtain ⟨others, last, hothers, hlast⟩ := hrest
      cases hlast
      obtain ⟨hmem, hmore⟩ := List.forall_mem_cons.mp hmem
      obtain ⟨hanswer, hanswers⟩ := List.forall_mem_cons.mp hanswers
      have hnext := ih (done ++ [x]) middle (answers ++ [y]) others hmore hanswers
        (hstep done answers x y state middle hmem hanswer hdone hx) hothers
      rwa [List.append_assoc, List.append_assoc] at hnext

theorem mapM_ok_invariant {step : α → Stateful σ β} (P : List α → σ → Prop)
    (hstep : ∀ done x y state after, P done state → (step x).run state = (.ok y, after) →
      P (done ++ [x]) after)
    {xs : List α} {ys : List β} (hstart : P [] state)
    (h : (xs.mapM step).run state = (.ok ys, after)) : P xs after :=
  mapM_ok_answers (fun done _ => P done) (fun done _ x y state after _ _ hdone => hstep done x y state after hdone)
    hstart h

theorem forM_ok_invariant {step : α → Stateful σ Unit} (P : List α → σ → Prop) {xs : List α}
    (hstep : ∀ done x state after, x ∈ xs → P done state → (step x).run state = (.ok (), after) →
      P (done ++ [x]) after)
    (hstart : P [] state) (h : (xs.forM step).run state = (.ok (), after)) : P xs after := by
  suffices hgeneral : ∀ rest done state, (∀ x ∈ rest, x ∈ xs) → P done state →
      (rest.forM step).run state = (.ok (), after) → P (done ++ rest) after from
    hgeneral xs [] state (fun _ hx => hx) hstart h
  intro rest
  induction rest with
  | nil =>
      intro done state hmem hdone hrun
      cases hrun
      rwa [List.append_nil]
  | cons x rest ih =>
      intro done state hmem hdone hrun
      obtain ⟨u, middle, hx, hrest⟩ := bind_ok_iff.mp hrun
      have hnext := ih (done ++ [x]) middle (fun y hy => hmem y (List.mem_cons_of_mem x hy))
        (hstep done x state middle (hmem x List.mem_cons_self) hdone hx) hrest
      rwa [List.append_assoc] at hnext

/-! Relations that a step keeps between the state before it and the state after it, whatever its
outcome. -/

def Keeps (R : σ → σ → Prop) (step : Stateful σ α) : Prop :=
  ∀ state, R state (step.run state).2

namespace Keeps

variable {R : σ → σ → Prop}

theorem of_run {step : Stateful σ α} (h : step.Keeps R) {outcome : Except Failure α}
    (hrun : step.run state = (outcome, after)) : R state after := by
  have hkept := h state
  rwa [hrun] at hkept

theorem of_idle [Std.Refl R] {step : Stateful σ α} (h : ∀ state, (step.run state).2 = state) :
    step.Keeps R := by
  intro state
  rw [h state]
  exact refl_of R state

theorem pure [Std.Refl R] (x : α) : Keeps R (Pure.pure x : Stateful σ α) :=
  of_idle fun _ => rfl

theorem throw [Std.Refl R] (failure : Failure) :
    Keeps R (MonadExcept.throw failure : Stateful σ α) :=
  of_idle fun _ => rfl

theorem get [Std.Refl R] : Keeps R (MonadState.get : Stateful σ σ) :=
  of_idle fun _ => rfl

theorem bind [IsTrans σ R] {step : Stateful σ α} {next : α → Stateful σ β} (hstep : step.Keeps R)
    (hnext : ∀ x, (next x).Keeps R) : (step >>= next).Keeps R := by
  intro state
  have hfirst := hstep state
  rw [Stateful.run_bind]
  rcases h : step.run state with ⟨outcome, middle⟩
  rw [h] at hfirst
  cases outcome with
  | ok x => exact trans_of R hfirst (hnext x middle)
  | error failure => exact hfirst

theorem forM [IsPreorder σ R] {step : α → Stateful σ Unit} (xs : List α)
    (hstep : ∀ x ∈ xs, (step x).Keeps R) : (xs.forM step).Keeps R := by
  induction xs with
  | nil => exact pure ()
  | cons x rest ih =>
      exact bind (hstep x List.mem_cons_self) fun _ =>
        ih fun y hy => hstep y (List.mem_cons_of_mem x hy)

theorem mapM [IsPreorder σ R] {step : α → Stateful σ β} (xs : List α)
    (hstep : ∀ x ∈ xs, (step x).Keeps R) : (xs.mapM step).Keeps R := by
  induction xs with
  | nil => exact pure []
  | cons x rest ih =>
      rw [List.mapM_cons]
      exact bind (hstep x List.mem_cons_self) fun y =>
        bind (ih fun z hz => hstep z (List.mem_cons_of_mem x hz)) fun _ => pure _

end Keeps

/-! Steps that look at no more of a state than two states that are related have in common. -/

def Respects (R : σ → σ → Prop) (step : Stateful σ α) : Prop :=
  ∀ state other, R state other →
    (step.run state).1 = (step.run other).1 ∧ R (step.run state).2 (step.run other).2

namespace Respects

variable {R : σ → σ → Prop}

theorem of_run {step : Stateful σ α} (h : step.Respects R) {other : σ} (hrelated : R state other)
    {outcome : Except Failure α} (hrun : step.run state = (outcome, after)) :
    (step.run other).1 = outcome := by
  have houtcome := (h state other hrelated).1
  rw [hrun] at houtcome
  exact houtcome.symm

theorem pure (x : α) : Respects R (Pure.pure x : Stateful σ α) :=
  fun _ _ h => ⟨rfl, h⟩

theorem throw (failure : Failure) : Respects R (MonadExcept.throw failure : Stateful σ α) :=
  fun _ _ h => ⟨rfl, h⟩

theorem bind {step : Stateful σ α} {next : α → Stateful σ β} (hstep : step.Respects R)
    (hnext : ∀ x, (next x).Respects R) : (step >>= next).Respects R := by
  intro state other h
  obtain ⟨houtcome, hafter⟩ := hstep state other h
  rw [Stateful.run_bind, Stateful.run_bind]
  rcases hrun : step.run state with ⟨outcome, middle⟩
  rcases hrun' : step.run other with ⟨outcome', middle'⟩
  rw [hrun, hrun'] at houtcome hafter
  obtain rfl : outcome = outcome' := houtcome
  cases outcome with
  | ok x => exact hnext x middle middle' hafter
  | error failure => exact ⟨rfl, hafter⟩

theorem get_bind {next : σ → Stateful σ β} (hsame : ∀ state other, R state other → next state = next other)
    (hnext : ∀ state, (next state).Respects R) : (MonadState.get >>= next).Respects R := by
  intro state other h
  rw [Stateful.run_bind_ok (Stateful.run_get state), Stateful.run_bind_ok (Stateful.run_get other),
    ← hsame state other h]
  exact hnext state state other h

theorem forM {step : α → Stateful σ Unit} (xs : List α) (hstep : ∀ x ∈ xs, (step x).Respects R) :
    (xs.forM step).Respects R := by
  induction xs with
  | nil => exact pure ()
  | cons x rest ih =>
      exact bind (hstep x List.mem_cons_self) fun _ =>
        ih fun y hy => hstep y (List.mem_cons_of_mem x hy)

end Respects

end Stateful

end Codegen
