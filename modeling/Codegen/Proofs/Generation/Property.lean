import Codegen.Proofs.Generation.DefaultPath
import Codegen.Proofs.Generation.Overlooking

/-! Templates whose bodies go out as properties of their classes, and what becomes of the templates after
them. -/

namespace Codegen.Generation

open Codegen.Files Codegen.Model

section

variable {extension : String} {classifier : Value} {template : Path} {run ready after : Run}
  {parcel : Output.Parcel} {i : Nat} {c : Model.Class}

theorem Step.Keeps.bind_ok {α β : Type} {step : Step α} {next : α → Step β} {y : β}
    (hstep : step.Keeps Eq) (h : (step >>= next).run run = (.ok y, after)) :
    ∃ x, (next x).run run = (.ok y, after) := by
  obtain ⟨x, middle, hfirst, hnext⟩ := Stateful.bind_ok_iff.mp h
  obtain rfl := hstep.of_run hfirst
  exact ⟨x, hnext⟩

theorem compose_default
    (hcompose : (compose extension classifier template).run run = (.ok (parcel, false), ready)) :
    ∃ root middle, middle.model = run.model ∧
      ((defaultPath classifier template extension root).run middle).1 = .ok parcel.path := by
  rw [compose, Stateful.run_bind_ok (run_putContext _ _ _)] at hcompose
  obtain ⟨options, hcompose⟩ := Step.Keeps.bind_ok (required_keeps _) hcompose
  obtain ⟨output, hcompose⟩ := Step.Keeps.bind_ok (readMember_keeps _ _) hcompose
  rw [Stateful.run_bind_ok (run_putContext _ _ _)] at hcompose
  obtain ⟨text, hcompose⟩ := Step.Keeps.bind_ok (evaluate_keeps template) hcompose
  obtain ⟨scope, hcompose⟩ := Step.Keeps.bind_ok (scopeName_keeps classifier) hcompose
  obtain ⟨_, hcompose⟩ := Step.Keeps.bind_ok (.say _ _ _) hcompose
  obtain ⟨⟨directive, body⟩, hcompose⟩ := Step.Keeps.bind_ok (.lift _) hcompose
  obtain ⟨path, middle, hpath, hcompose⟩ := Stateful.bind_ok_iff.mp hcompose
  obtain ⟨_, hcompose⟩ := Step.Keeps.bind_ok (.say _ _ _) hcompose
  obtain ⟨rfl, hexplicit⟩ := Prod.mk.inj (Except.ok.inj (congrArg Prod.fst hcompose))
  rw [Option.isSome_eq_false_iff, Option.isNone_iff_eq_none] at hexplicit
  rw [hexplicit, outputPath] at hpath
  obtain ⟨root, hpath⟩ := Step.Keeps.bind_ok (required_keeps _) hpath
  obtain ⟨shown, hpath⟩ := Step.Keeps.bind_ok (displayed_keeps root) hpath
  refine ⟨shown, _, ?_, congrArg Prod.fst hpath⟩
  rfl

theorem defaultPath_class (hclass : run.model.classes[i]? = some c) {root path : String}
    (hpath : ((defaultPath (.entity (.classifier i)) template extension root).run run).1 = .ok path) :
    ∃ above, path = above ++ "/" ++ (c.name ++ Output.defaultExtension template.name) := by
  rw [run_defaultPath hclass] at hpath
  obtain rfl := Except.ok.inj hpath
  split
  · exact ⟨root, by rw [String.empty_append]⟩
  · refine ⟨root ++ "/" ++ c.packageDirectory, ?_⟩
    simp only [String.append_assoc]

/-- The variable that a body goes out as when it comes from a class: the name of the class with a small
first letter. -/
theorem propertyName_of_compose (hclass : run.model.classes[i]? = some c)
    (hname : Text.isIdentifier c.name = true)
    (hcompose : (compose extension (.entity (.classifier i)) template).run run =
      (.ok (parcel, false), ready)) : parcel.propertyName = Text.lowerFirst c.name := by
  obtain ⟨root, middle, hmodel, hpath⟩ := compose_default hcompose
  obtain ⟨above, habove⟩ := defaultPath_class (hmodel ▸ hclass) hpath
  rw [Output.Parcel.propertyName, Output.Parcel.address, habove]
  exact Output.propertyName_identifier hname (Output.isExtension_defaultExtension _) above

theorem deliver_failed {isExplicit : Bool} {failure : Failure}
    (hcompose : (compose extension classifier template).run run = (.ok (parcel, isExplicit), ready))
    (hfailure : ((renderTemplate extension classifier template).run run).1 = .error failure) :
    ((parcel.deliver ready.model).run ready.desk).1 = .error failure := by
  have hends := renderingEnds extension classifier template run
  generalize (renderTemplate extension classifier template).run run = result at hends hfailure
  cases hends with
  | unsent other middle hfailed =>
      rw [hcompose] at hfailed
      cases hfailed
  | undelivered sent explicit middle hsent other desk hdelivery =>
      rw [hcompose] at hsent
      cases hsent
      cases hfailure
      exact congrArg Prod.fst hdelivery
  | rendered sent explicit middle hsent written desk hdelivery result hparcel htemplate =>
      cases hfailure

theorem Context.erase_accumulate {m : Model} {context after : Context} {name body : String}
    (h : context.accumulate m name body = .ok after) :
    Table.erase name after = Table.erase name context := by
  rw [accumulate, push] at h
  cases hlookup : context.lookup name with
  | none =>
      rw [hlookup] at h
      cases h
      exact Table.erase_put name _ context
  | some v =>
      rw [hlookup] at h
      cases v with
      | list items =>
          cases h
          exact Table.erase_put name _ context
      | _ => cases h

theorem deliver_property_listed {m : Model} {desk : Output.Desk} {bodies : List String}
    (hmode : parcel.mode = .property)
    (h : desk.context.lookup parcel.propertyName = Context.listed bodies) :
    ∃ context, ((parcel.deliver m).run desk).2 = { desk with context } ∧
      Table.erase parcel.propertyName context = Table.erase parcel.propertyName desk.context ∧
      ∀ failure, ((parcel.deliver m).run desk).1 = .error failure →
        Log.outputLogger.say desk.levels .debug
          s!"Accumulated output into context property '{parcel.propertyName}'" = .error failure := by
  obtain ⟨context, haccumulate, _⟩ := Context.accumulate_of_listed m parcel.body h
  rw [Output.run_deliver_property hmode, haccumulate]
  refine ⟨context, rfl, Context.erase_accumulate haccumulate, fun failure hfailure => ?_⟩
  · dsimp only at hfailure
    cases hsay : Log.outputLogger.say desk.levels .debug
        s!"Accumulated output into context property '{parcel.propertyName}'" with
    | ok u =>
        rw [hsay] at hfailure
        cases hfailure
    | error other =>
        rw [hsay] at hfailure
        cases hfailure
        rfl

theorem Act.mem_sent {name : String} {act : Act} (hleaves : act.LeavesAlone name)
    (h : parcel ∈ run.sent) : parcel ∈ (act.step.run run).2.sent := by
  cases act with
  | hooks step => exact (hleaves run).2 ▸ h
  | turnTo classifier stereotype =>
      rw [run_turnTo]
      exact h
  | render extension classifier template =>
      rw [run_render]
      have hsame := compose_sent extension classifier template run
      rcases hcompose : (compose extension classifier template).run run with ⟨outcome, ready⟩
      rw [hcompose] at hsame
      cases outcome with
      | error failure =>
          rw [renderTemplate_uncomposed hcompose]
          exact hsame ▸ h
      | ok composed =>
          rw [(renderTemplate_composed hcompose).2.1, hsame]
          exact List.mem_append_left _ h

theorem Run.listed_through {name : String} (hname : name ∉ Context.reserved) {acts : List Act}
    (hleaves : ∀ act ∈ acts, act.LeavesAlone name)
    (h : run.desk.context.lookup name = Context.listed (Output.bodiesFor name run.sent)) :
    (run.through acts).desk.context.lookup name =
      Context.listed (Output.bodiesFor name (run.through acts).sent) :=
  through_invariant (P := fun run => run.desk.context.lookup name =
    Context.listed (Output.bodiesFor name run.sent)) h fun act hact _ hlisted =>
      Act.listed hname (hleaves act hact) hlisted

theorem renderTemplate_refused {options : Settings.Options} {isExplicit : Bool}
    (hreserves : run.desk.context.Reserves options) (hclassifier : classifier.isList = false)
    (hcompose : (compose extension classifier template).run run = (.ok (parcel, isExplicit), ready))
    (hmode : parcel.mode = .property) (hname : parcel.propertyName ∈ Context.reserved) :
    let rendering := (renderTemplate extension classifier template).run run
    (∃ phrase, rendering.1 =
      .error (.generation (.occupiedProperty parcel.propertyName phrase))) ∧
      rendering.2.desk = ready.desk := by
  have hclass := hreserves.put "class" (by decide) hclassifier
  have hready := hclass.put "output" (v := .text options.output) (by decide) rfl
  rw [← compose_context extension classifier template hreserves.options, hcompose] at hready
  obtain ⟨v, hv, hlist⟩ := hready.taken parcel.propertyName hname
  have hrefused := Output.deliver_refused (m := ready.model) hmode hv hlist
  obtain ⟨hdesk, _, _, hfails⟩ := renderTemplate_composed hcompose
  exact ⟨⟨_, congrArg Prod.fst (hfails _ (congrArg Prod.fst hrefused))⟩,
    hdesk.trans (congrArg Prod.snd hrefused)⟩

theorem renderTemplate_joined {isExplicit : Bool}
    (hcompose : (compose extension classifier template).run run = (.ok (parcel, isExplicit), ready))
    (hmode : parcel.mode = .property) (hname : parcel.propertyName ∉ Context.reserved)
    (hlisted : run.desk.context.lookup parcel.propertyName =
      Context.listed (Output.bodiesFor parcel.propertyName run.sent)) :
    let rendering := (renderTemplate extension classifier template).run run
    (∀ failure, rendering.1 = .error failure → Log.outputLogger.say ready.desk.levels .debug
      s!"Accumulated output into context property '{parcel.propertyName}'" = .error failure) ∧
    (rendering.2.without parcel.propertyName).desk = (ready.without parcel.propertyName).desk ∧
    parcel ∈ rendering.2.sent ∧
    rendering.2.desk.context.lookup parcel.propertyName =
      Context.listed (Output.bodiesFor parcel.propertyName rendering.2.sent) := by
  intro rendering
  obtain ⟨hdesk, hgrows, _, _⟩ := renderTemplate_composed hcompose
  have hready : ready.desk.context.lookup parcel.propertyName =
      Context.listed (Output.bodiesFor parcel.propertyName run.sent) := by
    obtain ⟨context, hready, hlookup⟩ := compose_keeps extension classifier template run
    rw [hcompose] at hready
    rw [show ready = _ from hready]
    refine (hlookup _ ?_ ?_).trans hlisted <;>
      (intro heq
       exact hname (heq ▸ by decide))
  obtain ⟨context, hdelivered, herased, hsay⟩ :=
    deliver_property_listed (m := ready.model) hmode hready
  have hafter : rendering.2.desk = { ready.desk with context } := hdesk.trans hdelivered
  refine ⟨fun failure hfailure => hsay failure (deliver_failed hcompose hfailure), ?_, ?_, ?_⟩
  · rw [Run.without, Run.without]
    dsimp only
    rw [hafter]
    exact congrArg (fun context => ({ ready.desk with context } : Output.Desk)) herased
  · rw [hgrows]
    exact List.mem_append_right _ (List.mem_singleton_self parcel)
  · have hrendered := @Act.listed _ _ (.render extension classifier template) hname trivial hlisted
    dsimp only at hrendered
    rw [run_render] at hrendered
    exact hrendered

theorem Run.body_through (hmode : parcel.mode = .property)
    (hname : parcel.propertyName ∉ Context.reserved) (hparcel : parcel ∈ run.sent)
    (hlisted : run.desk.context.lookup parcel.propertyName =
      Context.listed (Output.bodiesFor parcel.propertyName run.sent)) {acts : List Act}
    (hleaves : ∀ act ∈ acts, act.LeavesAlone parcel.propertyName) :
    let bodies := Output.bodiesFor parcel.propertyName (run.through acts).sent
    parcel.body ∈ bodies ∧
      (run.through acts).desk.context.lookup parcel.propertyName = some (.ofTexts bodies) := by
  intro bodies
  have hsent : parcel ∈ (run.through acts).sent :=
    through_invariant (P := fun run => parcel ∈ run.sent) hparcel
      fun act hact _ h => Act.mem_sent (hleaves act hact) h
  have hbody : parcel.body ∈ bodies := by
    refine List.mem_map_of_mem (List.mem_filter.mpr ⟨hsent, ?_⟩)
    simp [hmode]
  have hlast : _ = Context.listed bodies := Run.listed_through hname hleaves hlisted
  obtain ⟨first, rest, hcons⟩ := List.exists_cons_of_ne_nil (List.ne_nil_of_mem hbody)
  refine ⟨hbody, hlast.trans ?_⟩
  rw [hcons]
  rfl

end

/-! What the templates after it make of the variable. -/

section

variable {run : Run} {name : String} {v : Value}

theorem render_occupied (source : String)
    (h : run.desk.context.lookup Template.Engine.reservedVariable = some v) :
    run.engine.render run.model run.registry source run.desk.context =
      run.engine.compile source >>= fun _ => .error .variableReserved := by
  refine Template.Engine.render_reserved _ _ source ?_
  obtain ⟨before, rest, hsplit, _⟩ := List.lookup_eq_some_iff.mp h
  simp [hsplit]

theorem render_additional (source : String) (hself : name ≠ Template.Engine.reservedVariable)
    (h : run.desk.context.lookup name = some v) :
    run.engine.render run.model run.registry source run.desk.context =
      run.engine.render run.model run.registry source
        ((name, v) :: (run.without name).desk.context) := by
  refine Template.Engine.render_congr _ _ ?_ fun other _ => ?_
  · rw [List.any_cons, decide_eq_false hself, Bool.false_or]
    exact (Table.any_erase_of_ne hself.symm _).symm
  · by_cases hother : other = name
    · rw [hother, h, List.lookup_cons_self]
    · rw [List.lookup_cons, beq_eq_false_iff_ne.mpr hother]
      exact (Table.lookup_erase_of_ne hother _).symm

theorem render_unread {source : String} (hself : name ≠ Template.Engine.reservedVariable)
    (h : ¬ run.engine.Reads name source) :
    run.engine.render run.model run.registry source run.desk.context =
      run.engine.render run.model run.registry source (run.without name).desk.context := by
  refine Template.Engine.render_congr _ _ (Table.any_erase_of_ne hself.symm _).symm fun other hother => ?_
  refine (Table.lookup_erase_of_ne ?_ _).symm
  rintro rfl
  exact h hother

end

/-- A class's template goes out as a property, by the name of the class with a small first letter. If
the context has that name from the start, nothing comes of it. If the name is the reserved one, nothing
is rendered from then on. Otherwise the templates after it are rendered as they would be otherwise, with
an additional variable for the list of the bodies; those that do not read it, as if it were not there. -/
theorem through_property (options : Settings.Options) (start : Run)
    (hcontext : start.desk.context = Context.initial (.entity .model) options)
    (hsent : start.sent = []) (before : List Act) {extension : String} {template : Path} {i : Nat}
    {c : Model.Class} (hclass : (start.through before).model.classes[i]? = some c)
    (hname : Text.isIdentifier c.name = true)
    (hsubjects : ∀ act ∈ before, ∀ subject ∈ act.subjects, subject.isList = false)
    (hbefore : ∀ act ∈ before, ∀ name ∈ Text.lowerFirst c.name :: Context.reserved,
      act.LeavesAlone name)
    {parcel : Output.Parcel} {ready : Run}
    (hcompose : (compose extension (.entity (.classifier i)) template).run (start.through before) =
      (.ok (parcel, false), ready)) (hmode : parcel.mode = .property) :
    let name := Text.lowerFirst c.name
    let rendering :=
      (renderTemplate extension (.entity (.classifier i)) template).run (start.through before)
    let after := rendering.2
    if name ∈ Context.reserved then
      (∃ phrase, rendering.1 = .error (.generation (.occupiedProperty name phrase))) ∧
        after.desk = ready.desk
    else
      (∀ failure, rendering.1 = .error failure → Log.outputLogger.say ready.desk.levels .debug
        s!"Accumulated output into context property '{name}'" = .error failure) ∧
      (after.without name).desk = (ready.without name).desk ∧
      ∀ later : List Act, (∀ act ∈ later, act.LeavesAlone name) →
        let run := after.through later
        let bodies := Output.bodiesFor name run.sent
        let rendered := run.engine.render run.model run.registry
        parcel.body ∈ bodies ∧ run.desk.context.lookup name = some (.ofTexts bodies) ∧
        if c.name = "self" ∨ c.name = "Self" then
          ∀ source, rendered source run.desk.context =
            run.engine.compile source >>= fun _ => .error .variableReserved
        else
          (∀ source, rendered source run.desk.context =
            rendered source ((name, .ofTexts bodies) :: (run.without name).desk.context)) ∧
          (∀ source, ¬ run.engine.Reads name source →
            rendered source run.desk.context = rendered source (run.without name).desk.context) ∧
          ((∀ earlier act rest, later = earlier ++ act :: rest →
              act.Overlooks name (after.through earlier)) →
            (after.without name).through later = run.without name) := by
  -- From here on the class matters only by the name that its body goes out as.
  have hproperty := propertyName_of_compose hclass hname hcompose
  rw [← hproperty] at hbefore ⊢
  intro name rendering after
  split
  · rename_i hreserved
    have hreserves : (start.through before).desk.context.Reserves options := by
      refine Run.through_invariant (P := fun run => run.desk.context.Reserves options) ?_
        fun act hact _ h => Act.reserves (hsubjects act hact)
          (fun other hother => hbefore act hact other (List.mem_cons_of_mem _ hother)) h
      rw [hcontext]
      exact .initial options
    exact renderTemplate_refused hreserves rfl hcompose hmode hreserved
  · rename_i hfree
    have hlisted : (start.through before).desk.context.lookup name =
        Context.listed (Output.bodiesFor name (start.through before).sent) := by
      refine Run.listed_through hfree (fun act hact => hbefore act hact name List.mem_cons_self) ?_
      rw [hcontext, hsent]
      exact Context.lookup_initial _ options hfree
    obtain ⟨hsay, hdesk, hparcel, hjoined⟩ := renderTemplate_joined hcompose hmode hfree hlisted
    refine ⟨hsay, hdesk, fun later hlater => ?_⟩
    intro run bodies rendered
    obtain ⟨hbody, hlist⟩ := Run.body_through hmode hfree hparcel hjoined hlater
    refine ⟨hbody, hlist, ?_⟩
    have hself : name = Template.Engine.reservedVariable ↔ c.name = "self" ∨ c.name = "Self" := by
      rw [← Text.lowerFirst_eq_self_iff, ← hproperty]
      rfl
    split
    · rename_i hreserved
      have hoccupied : run.desk.context.lookup Template.Engine.reservedVariable =
          some (.ofTexts bodies) := by
        rw [← hself.mpr hreserved]
        exact hlist
      exact fun source => render_occupied source hoccupied
    · rename_i hadmitted
      have hne := fun heq => hadmitted (hself.mp heq)
      refine ⟨fun source => render_additional source hne hlist, ?_, ?_⟩
      · exact fun source hunread => render_unread hne hunread
      · exact fun hoverlook => Run.through_without hfree hne hoverlook

/-! One class with a template whose body goes out as a property. -/

def oneProperty (name : String) : Run :=
  let start := Run.start
    { tree := ⟨[(["p"], .directory), (["p", "a"], .file (.bytes "##output property\nx".toUTF8))]⟩
      directory := [] } .empty
  { start with
    model := { classes := [{ name }] }
    desk := { start.desk with context := .initial (.entity .model) {} } }

def propertyOf (name : String) : Except Failure Rendered × Run :=
  (renderTemplate "" (.entity (.classifier 0)) (.ofString "/p/a")).run (oneProperty name)

theorem through_property_self :
    (∀ source, (propertyOf "Self").2.engine.render (propertyOf "Self").2.model
        (propertyOf "Self").2.registry source (propertyOf "Self").2.desk.context =
      (propertyOf "Self").2.engine.compile source >>= fun _ => .error .variableReserved) ∧
    (propertyOf "Order").2.desk.context.lookup "order" = some (.ofTexts ["x"]) ∧
    (∃ phrase, (propertyOf "Model").1 = .error (.generation (.occupiedProperty "model" phrase))) := by
  have hcompose : ∀ name ∈ ["Self", "Order", "Model"], ∃ parcel ready, parcel.mode = .property ∧
      (compose "" (.entity (.classifier 0)) (.ofString "/p/a")).run (oneProperty name) =
        (.ok (parcel, false), ready) := by
    have hoks : ∀ name ∈ ["Self", "Order", "Model"],
        (match ((compose "" (.entity (.classifier 0)) (.ofString "/p/a")).run (oneProperty name)).1 with
          | .ok (parcel, isExplicit) => parcel.mode = .property && !isExplicit
          | .error _ => false) = true := by
      decide +kernel
    intro name hname
    have hok := hoks name hname
    rcases hrun : (compose "" (.entity (.classifier 0)) (.ofString "/p/a")).run (oneProperty name) with
      ⟨outcome, ready⟩
    rw [hrun] at hok
    cases outcome with
    | error failure => cases hok
    | ok composed =>
        obtain ⟨parcel, isExplicit⟩ := composed
        simp only [Bool.and_eq_true, decide_eq_true_eq, Bool.not_eq_true'] at hok
        exact ⟨parcel, ready, hok.1, by rw [hok.2]⟩
  obtain ⟨self, readyForSelf, hmode, hrun⟩ := hcompose "Self" (by decide)
  have hself := through_property {} (oneProperty "Self") rfl rfl [] (c := { name := "Self" }) rfl
    (by decide +kernel) nofun nofun hrun hmode
  obtain ⟨order, readyForOrder, hmode, hrun⟩ := hcompose "Order" (by decide)
  have horder := through_property {} (oneProperty "Order") rfl rfl [] (c := { name := "Order" }) rfl
    (by decide +kernel) nofun nofun hrun hmode
  obtain ⟨model, readyForModel, hmode, hrun⟩ := hcompose "Model" (by decide)
  have hmodel := through_property {} (oneProperty "Model") rfl rfl [] (c := { name := "Model" }) rfl
    (by decide +kernel) nofun nofun hrun hmode
  rw [show Text.lowerFirst "Self" = "self" by decide +kernel] at hself
  rw [show Text.lowerFirst "Order" = "order" by decide +kernel] at horder
  rw [show Text.lowerFirst "Model" = "model" by decide +kernel] at hmodel
  dsimp only at hself horder hmodel
  rw [if_neg (by decide)] at hself horder
  rw [if_pos (by decide)] at hmodel
  refine ⟨?_, ?_, hmodel.1⟩
  · obtain ⟨_, _, hreserved⟩ := hself.2.2 [] nofun
    rw [if_pos (by decide)] at hreserved
    exact hreserved
  · obtain ⟨_, hlist, _⟩ := horder.2.2 [] nofun
    have hbodies : Output.bodiesFor "order" (propertyOf "Order").2.sent = ["x"] := by decide +kernel
    exact hlist.trans (congrArg (fun bodies => some (Value.ofTexts bodies)) hbodies)

end Codegen.Generation
