import Codegen.Proofs.Generation.Accumulated
import Codegen.Proofs.Template.Reading

/-! What happens to a run in the same way when a variable is taken away from its templates, since none of
them reads it. -/

namespace Codegen

namespace Table

variable {α : Type} {name other : String}

theorem erase_cons (name : String) (entry : String × α) (rest : List (String × α)) :
    erase name (entry :: rest) =
      if entry.1 = name then erase name rest else entry :: erase name rest := by
  by_cases h : entry.1 = name <;> simp [erase, h]

theorem lookup_erase_of_ne (h : other ≠ name) (table : List (String × α)) :
    (erase name table).lookup other = table.lookup other := by
  induction table with
  | nil => rfl
  | cons entry rest ih =>
      rw [erase_cons]
      split
      · rename_i hname
        rw [ih, List.lookup_cons, hname, beq_eq_false_iff_ne.mpr h]
      · rw [List.lookup_cons, List.lookup_cons, ih]

theorem put_erase (h : other ≠ name) (x : α) (table : List (String × α)) :
    put other x (erase name table) = erase name (put other x table) := by
  induction table with
  | nil => simp [put, erase, h]
  | cons entry rest ih =>
      rw [erase_cons, put]
      split
      · rename_i hname
        rw [if_neg (by simpa [hname] using h), erase_cons, if_pos hname, ih]
      · rename_i hname
        rw [put]
        split
        · rw [erase_cons, if_neg h]
        · rw [erase_cons, if_neg hname, ih]

theorem erase_put (name : String) (x : α) (table : List (String × α)) :
    erase name (put name x table) = erase name table := by
  induction table with
  | nil => simp [put, erase]
  | cons entry rest ih =>
      rw [put]
      split
      · rename_i hname
        rw [erase_cons, erase_cons, if_pos rfl, if_pos (beq_iff_eq.mp hname).symm]
      · rw [erase_cons, erase_cons, ih]

theorem any_erase_of_ne (h : other ≠ name) (table : List (String × α)) :
    (erase name table).any (·.1 = other) = table.any (·.1 = other) := by
  induction table with
  | nil => rfl
  | cons entry rest ih =>
      rw [erase_cons]
      split
      · rename_i hname
        rw [ih, List.any_cons, hname, decide_eq_false h.symm, Bool.false_or]
      · rw [List.any_cons, List.any_cons, ih]

end Table

namespace Generation

open Codegen.Files Codegen.Model

theorem run_evaluate (template : Path) (run : Run) :
    (evaluate template).run run =
      (run.desk.workspace.readText template >>= fun source =>
        run.engine.render run.model run.registry source run.desk.context, run) := by
  rw [evaluate, Stateful.run_bind_ok (run_workspace run), Stateful.run_bind, Step.run_lift]
  cases run.desk.workspace.readText template with
  | error failure => rfl
  | ok source =>
      dsimp only
      rw [Stateful.run_bind_ok (Stateful.run_get run), Step.run_lift]
      rfl

/-- The run in which nothing goes by a name in the context. -/
def Run.without (name : String) (run : Run) : Run :=
  { run with desk := { run.desk with context := Table.erase name run.desk.context } }

/-- The template is there without reading the variable of a name. -/
def Run.Unread (name : String) (template : Path) (run : Run) : Prop :=
  ∀ source, run.desk.workspace.readText template = .ok source → ¬ run.engine.Reads name source

/-- Without the variable the step does the same, as long as the template does not read it. -/
def Step.Overlooks {α : Type} (name : String) (template : Path) (step : Step α) : Prop :=
  ∀ run : Run, run.Unread name template →
    step.run (run.without name) = ((step.run run).1, (step.run run).2.without name) ∧
      (step.run run).2.Unread name template

namespace Step.Overlooks

variable {α β : Type} {name : String} {template : Path}

theorem pure (x : α) : (Pure.pure x : Step α).Overlooks name template := fun _ h => ⟨rfl, h⟩

theorem lift (outcome : Except Failure α) : (Step.lift outcome).Overlooks name template := by
  intro run h
  rw [run_lift, run_lift]
  exact ⟨rfl, h⟩

theorem bind {step : Step α} {next : α → Step β} (hstep : step.Overlooks name template)
    (hnext : ∀ x, (next x).Overlooks name template) : (step >>= next).Overlooks name template := by
  intro run h
  obtain ⟨hsame, hunread⟩ := hstep run h
  rw [Stateful.run_bind, Stateful.run_bind, hsame]
  rcases hfirst : step.run run with ⟨outcome, middle⟩
  rw [hfirst] at hunread
  cases outcome with
  | error failure => exact ⟨rfl, hunread⟩
  | ok x => exact hnext x middle hunread

theorem get_bind {next : Run → Step β} (hsame : ∀ run : Run, next (run.without name) = next run)
    (hnext : ∀ run, (next run).Overlooks name template) :
    (get >>= next).Overlooks name template := by
  intro run h
  rw [Stateful.run_bind_ok (Stateful.run_get _), Stateful.run_bind_ok (Stateful.run_get _), hsame]
  exact hnext run run h

theorem say (logger : Log.Component) (method : Log.Method) (message : String) :
    (Generation.say logger method message).Overlooks name template :=
  get_bind (fun _ => rfl) fun _ => lift _

theorem readMember (v : Value) (member : String) :
    (Generation.readMember v member).Overlooks name template :=
  get_bind (fun _ => rfl) fun _ => lift _

theorem displayed (v : Value) : (Generation.displayed v).Overlooks name template :=
  get_bind (fun _ => rfl) fun _ => pure _

theorem putContext {other : String} (hother : other ≠ name) (v : Value) :
    (Generation.putContext other v).Overlooks name template := by
  intro run h
  rw [run_putContext, run_putContext]
  refine ⟨?_, h⟩
  simp only [Run.without, Table.put_erase hother]

theorem required {other : String} (hother : other ≠ name) :
    (Generation.required other).Overlooks name template := by
  intro run h
  rw [Generation.required, Stateful.run_bind_ok (run_context _), Stateful.run_bind_ok (run_context _)]
  have hlookup : (run.without name).desk.context.lookup other = run.desk.context.lookup other :=
    Table.lookup_erase_of_ne hother _
  rw [hlookup]
  cases run.desk.context.lookup other with
  | some v => exact ⟨rfl, h⟩
  | none => exact ⟨rfl, h⟩

theorem evaluate (hname : name ≠ Template.Engine.reservedVariable) :
    (Generation.evaluate template).Overlooks name template := by
  intro run h
  rw [run_evaluate, run_evaluate]
  refine ⟨Prod.ext ?_ rfl, h⟩
  dsimp only [Run.without]
  cases hsource : run.desk.workspace.readText template with
  | error failure => rfl
  | ok source =>
      refine Template.Engine.render_congr _ _ (Table.any_erase_of_ne hname.symm _) fun other hother => ?_
      refine Table.lookup_erase_of_ne ?_ _
      rintro rfl
      exact h source hsource hother

theorem scopeName (classifier : Value) : (Generation.scopeName classifier).Overlooks name template := by
  rw [scopeName.eq_def]
  split
  · exact .pure _
  · exact .bind (.readMember _ _) fun member => .displayed member

theorem defaultPath (classifier : Value) (file : Path) (extension root : String) :
    (Generation.defaultPath classifier file extension root).Overlooks name template := by
  rw [defaultPath.eq_def]
  split
  · exact .pure _
  · refine .bind (.readMember _ _) fun package => .bind (.displayed _) fun before => ?_
    exact .bind (.readMember _ _) fun member => .bind (.displayed _) fun text => .pure _

theorem outputPath (extension : String) (classifier : Value) (file : Path)
    (hname : name ∉ Context.reserved) (explicit? : Option String) :
    (Generation.outputPath extension classifier file explicit?).Overlooks name template := by
  cases explicit? with
  | some path => exact .pure path
  | none =>
      refine .bind (.required ?_) fun output => .bind (.displayed output) fun root =>
        .defaultPath classifier file extension root
      rintro rfl
      exact hname (by decide)

theorem compose (extension : String) (classifier : Value) (hname : name ∉ Context.reserved)
    (hself : name ≠ Template.Engine.reservedVariable) :
    (Generation.compose extension classifier template).Overlooks name template := by
  have hne : ∀ other ∈ Context.reserved, other ≠ name := by
    rintro other hother rfl
    exact hname hother
  refine .bind (.putContext (hne _ (by decide)) classifier) fun _ => ?_
  refine .bind (.required (hne _ (by decide))) fun options => .bind (.readMember _ _) fun output => ?_
  refine .bind (.putContext (hne _ (by decide)) output) fun _ => .bind (.evaluate hself) fun text => ?_
  refine .bind (.scopeName classifier) fun scope => .bind (.say _ _ _) fun _ => ?_
  refine .bind (.lift _) fun (directive, body) => ?_
  exact .bind (.outputPath extension classifier template hname _) fun path =>
    .bind (.say _ _ _) fun _ => .pure _

end Step.Overlooks

/-! Deliveries, and whole runs. -/

section

variable {name : String} {parcel : Output.Parcel}

theorem Context.accumulate_erase {other : String} (hother : other ≠ name) (m : Model)
    (context : Context) (body : String) :
    Context.accumulate m (Table.erase name context) other body =
      (context.accumulate m other body).map (Table.erase name) := by
  have hpush : Context.push (Table.erase name context) other (.text body) =
      (context.push other (.text body)).map (Table.erase name) := by
    rw [Context.push, Context.push, Table.lookup_erase_of_ne hother]
    cases context.lookup other with
    | none => exact congrArg Except.ok (Table.put_erase hother _ _)
    | some v =>
        cases v with
        | list items => exact congrArg Except.ok (Table.put_erase hother _ _)
        | _ => rfl
  rw [Context.accumulate, Context.accumulate, hpush]
  cases context.push other (.text body) <;> rfl

theorem Context.setClass_erase (hname : name ∉ Context.reserved) (context : Context)
    (classifier stereotype : Value) :
    Context.setClass (Table.erase name context) classifier stereotype =
      Table.erase name (context.setClass classifier stereotype) := by
  have hne : ∀ other ∈ Context.reserved, other ≠ name := by
    rintro other hother rfl
    exact hname hother
  rw [Context.setClass, Table.put_erase (hne _ (by decide)), Table.put_erase (hne _ (by decide)),
    Context.setClass]

theorem deliver_without (m : Model) (run : Run)
    (hparcel : parcel.mode = .property → parcel.propertyName ≠ name) :
    (parcel.deliver m).run (run.without name).desk =
      (((parcel.deliver m).run run.desk).1,
        { ((parcel.deliver m).run run.desk).2 with
          context := Table.erase name ((parcel.deliver m).run run.desk).2.context }) := by
  -- A property looks at one entry of the context, which is not the variable's; other modes at none.
  by_cases hmode : parcel.mode = .property
  · rw [Output.run_deliver_property hmode, Output.run_deliver_property hmode]
    have haccumulate : (run.without name).desk.context.accumulate m parcel.propertyName parcel.body =
        (run.desk.context.accumulate m parcel.propertyName parcel.body).map (Table.erase name) :=
      Context.accumulate_erase (hparcel hmode) m run.desk.context parcel.body
    rw [haccumulate]
    cases run.desk.context.accumulate m parcel.propertyName parcel.body <;> rfl
  · have hkept := (Output.deliver_overlooksContext (m := m) hmode).kept run.desk
    rw [hkept]
    exact Output.deliver_overlooksContext hmode run.desk (Table.erase name run.desk.context)

end

/-- The act does not have to do with the variable: a template that is rendered does not read it, and what
is made of it does not go out as the variable. -/
def Act.Overlooks (name : String) (run : Run) : Act → Prop
  | render extension classifier template =>
    run.Unread name template ∧
      ∀ parcel isExplicit,
        ((compose extension classifier template).run run).1 = .ok (parcel, isExplicit) →
        parcel.mode = .property → parcel.propertyName ≠ name
  | turnTo _ _ => True
  | hooks step => step.run (run.without name) = ((step.run run).1, (step.run run).2.without name)

theorem renderTemplate_without {name extension : String} {classifier : Value} {template : Path}
    (hname : name ∉ Context.reserved) (hself : name ≠ Template.Engine.reservedVariable) {run : Run}
    (h : (Act.render extension classifier template).Overlooks name run) :
    (renderTemplate extension classifier template).run (run.without name) =
      (((renderTemplate extension classifier template).run run).1,
        ((renderTemplate extension classifier template).run run).2.without name) := by
  obtain ⟨hunread, hparcel⟩ := h
  obtain ⟨hcompose, _⟩ := Step.Overlooks.compose extension classifier hname hself run hunread
  rw [renderTemplate, Stateful.run_bind, Stateful.run_bind, hcompose]
  rcases hrun : (compose extension classifier template).run run with ⟨outcome, ready⟩
  rw [hrun] at hparcel
  cases outcome with
  | error failure => rfl
  | ok composed =>
      obtain ⟨parcel, isExplicit⟩ := composed
      have hdeliver := deliver_without ready.model ready (hparcel parcel isExplicit rfl)
      have hmodel : (ready.without name).model = ready.model := rfl
      simp only [Stateful.run_bind, run_record, Stateful.run_get, Step.run_ofRouting, Run.recording,
        hmodel, hdeliver]
      rcases (parcel.deliver ready.model).run ready.desk with ⟨outcome, desk⟩
      cases outcome <;> rfl

theorem Run.through_without {name : String} (hname : name ∉ Context.reserved)
    (hself : name ≠ Template.Engine.reservedVariable) {acts : List Act} {run : Run}
    (h : ∀ before act rest, acts = before ++ act :: rest → act.Overlooks name (run.through before)) :
    (run.without name).through acts = (run.through acts).without name := by
  induction acts generalizing run with
  | nil => rfl
  | cons act rest ih =>
      have hact : (act.step.run (run.without name)).2 = (act.step.run run).2.without name := by
        have hfirst : act.Overlooks name run := h [] act rest rfl
        cases act with
        | render extension classifier template =>
            rw [run_render, run_render, renderTemplate_without hname hself hfirst]
        | turnTo classifier stereotype =>
            rw [run_turnTo, run_turnTo]
            simp only [Run.without, Context.setClass_erase hname]
        | hooks step => exact congrArg Prod.snd hfirst
      show Run.through (act.step.run (run.without name)).2 rest = _
      rw [hact]
      refine ih fun before other others hsplit => ?_
      exact h (act :: before) other others (by rw [hsplit]; rfl)

end Generation

end Codegen
