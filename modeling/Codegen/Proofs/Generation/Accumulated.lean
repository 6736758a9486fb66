import Codegen.Proofs.Generation.Shipping
import Codegen.Proofs.Output.Accumulating

/-! What a context holds while templates are rendered with it: under a name of its own nothing but the
bodies that went out as that property, and under the names that every run uses no list. -/

namespace Codegen.Generation

open Codegen.Files

/-- The parcels that were sent so far. -/
def Run.sent (run : Run) : List Output.Parcel := run.journal.filterMap Event.sent?

theorem Run.sent_recording (run : Run) (parcel : Output.Parcel) :
    (run.recording (.sent parcel)).sent = run.sent ++ [parcel] := by
  simp [sent, Event.sent?]

/-- The names that a context has from the start. -/
def Context.reserved : List String := ["model", "options", "output", "class", "stereotype"]

theorem Context.lookup_initial (model : Value) (options : Settings.Options) {name : String}
    (h : name ∉ reserved) : (initial model options).lookup name = none := by
  rw [List.lookup_eq_none_iff]
  simpa [initial, reserved] using h

/-- The names that a context has from the start are taken, and by no list. -/
structure Context.Reserves (options : Settings.Options) (context : Context) : Prop where
  options : context.lookup "options" = some options.value
  taken : ∀ name ∈ Context.reserved, ∃ v, context.lookup name = some v ∧ v.isList = false

namespace Context.Reserves

variable {options : Settings.Options} {context after : Context}

theorem initial (options : Settings.Options) :
    Reserves options (Context.initial (.entity .model) options) where
  options := rfl
  taken := by
    simp only [reserved, List.forall_mem_cons]
    exact ⟨⟨_, rfl, rfl⟩, ⟨_, rfl, rfl⟩, ⟨_, rfl, rfl⟩, ⟨_, rfl, rfl⟩, ⟨_, rfl, rfl⟩, nofun⟩

theorem put (h : context.Reserves options) (name : String) {v : Value} (hname : name ≠ "options")
    (hv : v.isList = false) : Reserves options (Table.put name v context) where
  options := (Table.lookup_put_of_ne hname.symm v context).trans h.options
  taken := by
    intro other hother
    by_cases heq : other = name
    · subst heq
      exact ⟨v, Table.lookup_put other v context, hv⟩
    · rw [Table.lookup_put_of_ne heq]
      exact h.taken other hother

theorem of_occupied (h : context.Reserves options)
    (hafter : ∀ name ∈ reserved, ∀ v, context.lookup name = some v → v.isList = false →
      after.lookup name = some v) : after.Reserves options where
  options := hafter "options" (by decide) _ h.options rfl
  taken := by
    intro name hname
    obtain ⟨v, hv, hlist⟩ := h.taken name hname
    exact ⟨v, hafter name hname v hv hlist, hlist⟩

end Context.Reserves

/-! Rendering one template. -/

section

variable {extension : String} {classifier : Value} {template : Path} {run ready : Run}

theorem run_required {name : String} {v : Value} (h : run.desk.context.lookup name = some v) :
    (required name).run run = (.ok v, run) := by
  rw [required, Stateful.run_bind_ok (run_context run), h]
  rfl

theorem readMember_output (options : Settings.Options) (run : Run) :
    (readMember options.value "output").run run = (.ok (.text options.output), run) := by
  rw [readMember, Stateful.run_bind_ok (Stateful.run_get run), Step.run_lift]
  rfl

/-- Of the context, composing a template's parcel changes what templates find as the class and as the
output directory. -/
theorem compose_context (extension : String) (classifier : Value) (template : Path)
    {options : Settings.Options} (hoptions : run.desk.context.lookup "options" = some options.value) :
    ((compose extension classifier template).run run).2.desk.context =
      Table.put "output" (.text options.output) (Table.put "class" classifier run.desk.context) := by
  let first : Run :=
    { run with desk := { run.desk with context := Table.put "class" classifier run.desk.context } }
  have hkept : first.desk.context.lookup "options" = some options.value :=
    (Table.lookup_put_of_ne (by decide) _ _).trans hoptions
  rw [compose, Stateful.run_bind_ok (run_putContext _ _ _), Stateful.run_bind_ok (run_required hkept),
    Stateful.run_bind_ok (readMember_output options _), Stateful.run_bind_ok (run_putContext _ _ _)]
  suffices hrest : Step.Keeps Eq _ from congrArg (fun run : Run => run.desk.context) (hrest _).symm
  refine .bind (evaluate_keeps template) fun text => .bind (scopeName_keeps classifier) fun scope => ?_
  refine .bind (.say _ _ _) fun _ => .bind (.lift _) fun (directive, body) => ?_
  exact .bind (outputPath_keeps extension classifier template _) fun path =>
    .bind (.say _ _ _) fun _ => .pure _

theorem renderTemplate_composed {parcel : Output.Parcel} {isExplicit : Bool}
    (hcompose : (compose extension classifier template).run run = (.ok (parcel, isExplicit), ready)) :
    let delivery := (parcel.deliver ready.model).run ready.desk
    let rendering := (renderTemplate extension classifier template).run run
    rendering.2.desk = delivery.2 ∧ rendering.2.sent = ready.sent ++ [parcel] ∧
      (∀ result, rendering.1 = .ok result → result.parcel = parcel) ∧
      ∀ failure, delivery.1 = .error failure →
        rendering = (.error failure, { ready.recording (.sent parcel) with desk := delivery.2 }) := by
  intro delivery rendering
  have hends := renderingEnds extension classifier template run
  change RenderingEnds extension classifier template run rendering at hends
  generalize rendering = result at hends
  cases hends with
  | unsent failure middle hfailed =>
      rw [hcompose] at hfailed
      cases hfailed
  | undelivered sent explicit middle hsent failure desk hdelivery =>
      rw [hcompose] at hsent
      cases hsent
      have heq : delivery = (.error failure, desk) := hdelivery
      refine ⟨by rw [heq], Run.sent_recording ready parcel, ?_, ?_⟩
      · intro result hresult
        cases hresult
      · intro other hother
        rw [heq] at hother ⊢
        cases hother
        rfl
  | rendered sent explicit middle hsent written desk hdelivery result hparcel htemplate =>
      rw [hcompose] at hsent
      cases hsent
      have heq : delivery = (.ok written, desk) := hdelivery
      refine ⟨by rw [heq], ?_, ?_, ?_⟩
      · simp [Run.sent, Event.sent?]
      · intro other hother
        cases hother
        exact hparcel
      · intro failure hfailure
        rw [heq] at hfailure
        cases hfailure

theorem compose_sent (extension : String) (classifier : Value) (template : Path) (run : Run) :
    ((compose extension classifier template).run run).2.sent = run.sent := by
  obtain ⟨context, hafter, _⟩ := compose_keeps extension classifier template run
  rw [hafter]
  rfl

theorem renderTemplate_uncomposed {failure : Failure}
    (hcompose : (compose extension classifier template).run run = (.error failure, ready)) :
    (renderTemplate extension classifier template).run run = (.error failure, ready) := by
  rw [renderTemplate, Stateful.run_bind_error hcompose]

end

/-! A run during which templates are rendered again and again. -/

/-- What happens to a run: a template is rendered for a class or for the project, the class and the
stereotype at hand are set, or hooks do anything at all. -/
inductive Act
  | render (extension : String) (classifier : Value) (template : Path)
  | turnTo (classifier stereotype : Value)
  | hooks (step : Step Unit)

namespace Act

def step : Act → Step Unit
  | render extension classifier template => do
    let _ ← renderTemplate extension classifier template
  | turnTo classifier stereotype => do
    setContext ((← context).setClass classifier stereotype)
  | hooks step => step

def subjects : Act → List Value
  | render _ classifier _ => [classifier]
  | turnTo classifier stereotype => [classifier, stereotype]
  | hooks _ => []

/-- Hooks send nothing, and leave what the context holds under a name. -/
def LeavesAlone (name : String) : Act → Prop
  | hooks step => step.Keeps fun run after =>
      after.desk.context.lookup name = run.desk.context.lookup name ∧ after.sent = run.sent
  | _ => True

end Act

/-- The run after some acts; an act that fails is not the last. -/
def Run.through (run : Run) (acts : List Act) : Run :=
  acts.foldl (fun run act => (act.step.run run).2) run

theorem Run.through_invariant {P : Run → Prop} {acts : List Act} {run : Run} (hstart : P run)
    (hstep : ∀ act ∈ acts, ∀ run, P run → P (act.step.run run).2) : P (run.through acts) := by
  induction acts generalizing run with
  | nil => exact hstart
  | cons act rest ih =>
      exact ih (hstep act List.mem_cons_self run hstart) fun other hother =>
        hstep other (List.mem_cons_of_mem act hother)

section

variable {name : String} {run : Run} {act : Act}

theorem run_render (extension : String) (classifier : Value) (template : Path) (run : Run) :
    ((Act.render extension classifier template).step.run run).2 =
      ((renderTemplate extension classifier template).run run).2 := by
  rw [Act.step, Stateful.run_bind]
  rcases (renderTemplate extension classifier template).run run with ⟨outcome, after⟩
  cases outcome <;> rfl

theorem run_turnTo (classifier stereotype : Value) (run : Run) :
    ((Act.turnTo classifier stereotype).step.run run).2 =
      { run with
        desk := { run.desk with context := run.desk.context.setClass classifier stereotype } } := by
  rw [Act.step, Stateful.run_bind_ok (run_context run), run_setContext]

theorem Act.listed (hname : name ∉ Context.reserved) (hleaves : act.LeavesAlone name)
    (h : run.desk.context.lookup name = Context.listed (Output.bodiesFor name run.sent)) :
    let after := (act.step.run run).2
    after.desk.context.lookup name = Context.listed (Output.bodiesFor name after.sent) := by
  have hfree : name ≠ "class" ∧ name ≠ "output" ∧ name ≠ "stereotype" := by
    refine ⟨?_, ?_, ?_⟩ <;> (rintro rfl; exact hname (by decide))
  cases act with
  | hooks step =>
      -- Hooks neither send nor touch the name, so both sides stay as they are.
      obtain ⟨hlookup, hsent⟩ := hleaves run
      show _ = Context.listed (Output.bodiesFor name ((step.run run).2).sent)
      rw [hsent, ← h]
      exact hlookup
  | turnTo classifier stereotype =>
      dsimp only
      rw [run_turnTo]
      refine Eq.trans ?_ h
      show (Table.put "stereotype" stereotype (Table.put "class" classifier run.desk.context)).lookup
        name = _
      rw [Table.lookup_put_of_ne hfree.2.2, Table.lookup_put_of_ne hfree.1]
  | render extension classifier template =>
      dsimp only
      rw [run_render]
      obtain ⟨context, hready, hlookup⟩ := compose_keeps extension classifier template run
      rcases hcompose : (compose extension classifier template).run run with ⟨outcome, ready⟩
      rw [hcompose] at hready
      obtain rfl : ready = { run with desk := { run.desk with context } } := hready
      have hlisted : context.lookup name = Context.listed (Output.bodiesFor name run.sent) :=
        (hlookup name hfree.1 hfree.2.1).trans h
      cases outcome with
      | error failure =>
          rw [renderTemplate_uncomposed hcompose]
          exact hlisted
      | ok composed =>
          obtain ⟨hdesk, hsent, _⟩ := renderTemplate_composed hcompose
          rw [hdesk, hsent]
          exact Output.deliver_listed hlisted

theorem Act.reserves {options : Settings.Options}
    (hsubjects : ∀ subject ∈ act.subjects, subject.isList = false)
    (hleaves : ∀ name ∈ Context.reserved, act.LeavesAlone name)
    (h : run.desk.context.Reserves options) :
    (act.step.run run).2.desk.context.Reserves options := by
  cases act with
  | hooks step =>
      refine h.of_occupied fun name hname v hv _ => ?_
      exact (hleaves name hname run).1.trans hv
  | turnTo classifier stereotype =>
      rw [run_turnTo]
      have hclass := h.put "class" (by decide)
        (hsubjects classifier List.mem_cons_self)
      exact hclass.put _ (by decide) (hsubjects stereotype (by simp [subjects]))
  | render extension classifier template =>
      rw [run_render]
      have hclass := h.put "class" (by decide)
        (hsubjects classifier List.mem_cons_self)
      have hready := hclass.put "output" (v := .text options.output) (by decide) rfl
      rw [← compose_context extension classifier template h.options] at hready
      rcases hcompose : (compose extension classifier template).run run with ⟨outcome, ready⟩
      rw [hcompose] at hready
      cases outcome with
      | error failure =>
          rw [renderTemplate_uncomposed hcompose]
          exact hready
      | ok composed =>
          rw [(renderTemplate_composed hcompose).1]
          exact hready.of_occupied fun name _ v hv hlist => Output.deliver_occupied hv hlist

/-- After every rendering the context holds, under a name of its own, the list of the bodies that went
out as that property, and nothing as long as there were none; the names that it had from the start hold
no list. A body that goes out as a property of something else than a list is refused and leaves the
whole context as it is; a body that goes out in another mode leaves it as it is in any case. -/
theorem through_accumulates (options : Settings.Options) (start : Run)
    (hcontext : start.desk.context = Context.initial (.entity .model) options)
    (hsent : start.sent = []) (acts : List Act) :
    let run := start.through acts
    (∀ name, name ∉ Context.reserved → (∀ act ∈ acts, act.LeavesAlone name) →
      run.desk.context.lookup name = Context.listed (Output.bodiesFor name run.sent)) ∧
    ((∀ act ∈ acts, ∀ subject ∈ act.subjects, subject.isList = false) →
      (∀ act ∈ acts, ∀ name ∈ Context.reserved, act.LeavesAlone name) →
      ∀ name ∈ Context.reserved, ∃ v, run.desk.context.lookup name = some v ∧ v.isList = false) ∧
    ∀ extension classifier template,
      let composition := (compose extension classifier template).run run
      let ready := composition.2
      let rendering := (renderTemplate extension classifier template).run run
      let after := rendering.2
      (∀ name, name ≠ "class" → name ≠ "output" →
        ready.desk.context.lookup name = run.desk.context.lookup name) ∧
      match composition.1 with
      | .error failure => rendering.1 = .error failure ∧ after = ready ∧ after.sent = run.sent
      | .ok (parcel, _) =>
        after.sent = run.sent ++ [parcel] ∧
        (∀ result, rendering.1 = .ok result → result.parcel = parcel) ∧
        (parcel.mode ≠ .property → after.desk.context = ready.desk.context) ∧
        ∀ v, parcel.mode = .property →
          ready.desk.context.lookup parcel.propertyName = some v → v.isList = false →
          rendering.1 =
            .error (.generation (.occupiedProperty parcel.propertyName (v.typeName ready.model))) ∧
          after.desk = ready.desk := by
  intro run
  refine ⟨?_, ?_, ?_⟩
  · intro name hname hleaves
    refine Run.through_invariant (P := fun run => run.desk.context.lookup name =
      Context.listed (Output.bodiesFor name run.sent)) ?_ fun act hact _ hlisted =>
        Act.listed hname (hleaves act hact) hlisted
    rw [hsent, hcontext]
    exact Context.lookup_initial _ options hname
  · intro hsubjects hleaves
    refine (Run.through_invariant (P := fun run => run.desk.context.Reserves options) ?_
      fun act hact _ hreserves =>
        Act.reserves (hsubjects act hact) (hleaves act hact) hreserves).taken
    rw [hcontext]
    exact .initial options
  · intro extension classifier template
    obtain ⟨context, hready, hlookup⟩ := compose_keeps extension classifier template run
    have hsame := compose_sent extension classifier template run
    rcases hcompose : (compose extension classifier template).run run with ⟨outcome, ready⟩
    rw [hcompose] at hready hsame
    refine ⟨fun name hclass houtput => ?_, ?_⟩
    · rw [show ready = _ from hready]
      exact hlookup name hclass houtput
    cases outcome with
    | error failure =>
        rw [renderTemplate_uncomposed hcompose]
        exact ⟨rfl, rfl, hsame⟩
    | ok composed =>
        obtain ⟨parcel, isExplicit⟩ := composed
        obtain ⟨hdesk, hgrows, hparcel, hfails⟩ := renderTemplate_composed hcompose
        refine ⟨hgrows.trans (by rw [hsame]), hparcel, fun hmode => ?_, fun v hmode hv hlist => ?_⟩
        · rw [hdesk]
          exact (Output.deliver_overlooksContext hmode).kept ready.desk
        · have hrefused := Output.deliver_refused (m := ready.model) hmode hv hlist
          rw [hfails _ (congrArg Prod.fst hrefused), hrefused]
          exact ⟨rfl, rfl⟩

end

/-! Two templates whose bodies go out as the same property, and one whose body cannot. -/

def threeProperties : Run :=
  let start := Run.start
    { tree := ⟨[(["p"], .directory), (["p", "a"], .file (.bytes "##output property x/items\none".toUTF8)),
        (["p", "b"], .file (.bytes "##output property items\ntwo".toUTF8)),
        (["p", "c"], .file (.bytes "##output property model\nthree".toUTF8))]⟩
      directory := [] } .empty
  { start with desk := { start.desk with context := .initial (.entity .model) {} } }

def itemActs : List Act :=
  [.render "" .null (.ofString "/p/a"), .hooks (putContext "note" (.text "n")),
    .render "" .null (.ofString "/p/c"), .turnTo (.text "A") (.text "E"),
    .render "" .null (.ofString "/p/b")]

theorem itemActs_leaveAlone {name : String} (h : name ≠ "note") :
    ∀ act ∈ itemActs, act.LeavesAlone name := by
  simp only [itemActs, List.forall_mem_cons]
  refine ⟨trivial, fun run => ⟨?_, rfl⟩, trivial, trivial, trivial, nofun⟩
  exact Table.lookup_put_of_ne h _ run.desk.context

theorem through_accumulates_items :
    let run := threeProperties.through itemActs
    run.desk.context.lookup "items" = some (.ofTexts ["one", "two"]) ∧
      ∃ v, run.desk.context.lookup "model" = some v ∧ v.isList = false := by
  intro run
  obtain ⟨hlisted, htaken, _⟩ :=
    through_accumulates {} threeProperties rfl rfl itemActs
  have hbodies : Output.bodiesFor "items" run.sent = ["one", "two"] := by decide +kernel
  have hitems := hlisted "items" (by decide) (itemActs_leaveAlone (by decide))
  rw [hbodies] at hitems
  refine ⟨hitems, htaken ?_ ?_ "model" (by decide)⟩
  · simp [itemActs, Act.subjects, Value.isList]
  · intro act hact name hname
    refine itemActs_leaveAlone ?_ act hact
    rintro rfl
    exact absurd hname (by decide)

end Codegen.Generation
