import Codegen.Proofs.Generation.Property
import Codegen.Proofs.Output.Sending
import Codegen.Proofs.Platform.Discovery
import Codegen.Proofs.Platform.EntityModule

/-! What a template of the bundled platform comes to for a class, and where it goes. -/

namespace Codegen.Platform

open Codegen.Files Codegen.Generation Codegen.Model Codegen.Output

/-- The platform is at hand in a run: its members are registered, its header can be included, and
templates find the options. -/
structure Provided (options : Settings.Options) (m : Model) (run : Run) : Prop where
  model : run.model = m
  members : Equips options.delimiter run.registry
  header : run.engine.partials.lookup "python_header" = some platformHeader
  reserves : run.desk.context.Reserves options

section

variable {run ready : Run} {extension : String} {template : Path} {i : Nat} {c : Model.Class}

theorem parseDirective_comment (rest : String) (name : Option String) :
    Output.parseDirective ("# " ++ rest) name = .ok (none, "# " ++ rest) := by
  have hstart : Text.hasStart Output.directiveStart ("# " ++ rest) = false := by
    rw [Text.hasStart, String.toList_append]
    rfl
  rw [Output.parseDirective, hstart]
  rfl

theorem run_evaluate_of_read {source : String} (h : run.desk.workspace.readText template = .ok source) :
    (evaluate template).run run =
      (run.engine.render run.model run.registry source run.desk.context, run) := by
  rw [run_evaluate, h]
  rfl

def evaluating (options : Settings.Options) (subject : Value) (run : Run) : Run :=
  let context := Table.put "output" (.text options.output) (Table.put "class" subject run.desk.context)
  { run with desk := { run.desk with context } }

/-- The run when a template is evaluated for a class. -/
def composing (options : Settings.Options) (i : Nat) (run : Run) : Run :=
  let context :=
    Table.put "output" (.text options.output) (Table.put "class" (.entity (.classifier i)) run.desk.context)
  { run with desk := { run.desk with context } }

section

variable {options : Settings.Options} {m : Model} {file : Path}

theorem lookup_composing {name : String} (hclass : name ≠ "class") (houtput : name ≠ "output") :
    (composing options i run).desk.context.lookup name = run.desk.context.lookup name :=
  (Table.lookup_put_of_ne houtput _ _).trans (Table.lookup_put_of_ne hclass _ _)

theorem lookup_composing_class :
    (composing options i run).desk.context.lookup "class" = some (.entity (.classifier i)) :=
  (Table.lookup_put_of_ne (show "class" ≠ "output" by decide) _ _).trans (Table.lookup_put _ _ _)

theorem lookup_composing_output :
    (composing options i run).desk.context.lookup "output" = some (.text options.output) :=
  Table.lookup_put _ _ _

theorem run_scopeName (hclass : run.model.classes[i]? = some c) :
    (scopeName (.entity (.classifier i))).run run = (.ok c.name, run) :=
  (Stateful.run_bind_ok (readMember_name hclass) _).trans (run_displayed_text c.name run)

/-- The path of a template that names none, when it is rendered for a class. -/
def ownPath (options : Settings.Options) (c : Model.Class) (file : Path) : String :=
  options.output ++ "/" ++ ((if c.packageDirectory = "" then "" else c.packageDirectory ++ "/") ++
    (c.name ++ Output.defaultExtension file.name))

def parcelOf (own : String) : Except Failure (Option Directive × String) → Except Failure (Parcel × Bool)
  | .error failure => .error failure
  | .ok (none, body) => .ok ({ mode := .overwrite, path := own, body }, false)
  | .ok (some ⟨mode, none⟩, body) => .ok ({ mode, path := own, body }, false)
  | .ok (some ⟨mode, some path⟩, body) => .ok ({ mode, path, body }, true)

theorem compose_evaluated {subject : Value} {own scope : String} {outcome : Except Failure String} (extension : String)
    (hsubject : subject.isList = false) (h : run.desk.context.Reserves options)
    (hscope : (scopeName subject).run (evaluating options subject run) =
      (.ok scope, evaluating options subject run))
    (hown : (outputPath extension subject file none).run (evaluating options subject run) =
      (.ok own, evaluating options subject run))
    (houtcome : (evaluate file).run (evaluating options subject run) =
      (outcome, evaluating options subject run)) :
    (compose extension subject file).Comes run
      (outcome.bind fun text => parcelOf own (parseDirective text (some file.toString)))
      (evaluating options subject run) := by
  refine .bind (run_putContext _ _ _) (.bind (run_required (h.put "class" (by decide) hsubject).options)
    (.bind (readMember_output _ _) (.bind (run_putContext _ _ _) ?_)))
  cases outcome with
  | error failure => exact .of_run (Stateful.run_bind_error houtcome _)
  | ok text =>
      refine .bind houtcome (.bind hscope (.bind_comes (.say _ _ _ _) ?_))
      show Step.Comes _ _ (parcelOf own (parseDirective text (some file.toString))) _
      cases parseDirective text (some file.toString) with
      | error failure => exact .of_run rfl
      | ok parsed =>
          obtain ⟨directive, body⟩ := parsed
          refine .bind (Step.run_lift _ _) ?_
          cases directive with
          | none => exact .bind hown (.bind_comes (.say _ _ _ _) (.pure _ _))
          | some directive =>
              obtain ⟨mode, path⟩ := directive
              cases path with
              | none => exact .bind hown (.bind_comes (.say _ _ _ _) (.pure _ _))
              | some path => exact .bind (Stateful.run_pure _ _) (.bind_comes (.say _ _ _ _) (.pure _ _))

theorem compose_classifier {outcome : Except Failure String} (extension : String) (h : Provided options m run)
    (hclass : m.classes[i]? = some c)
    (houtcome : (evaluate file).run (composing options i run) = (outcome, composing options i run)) :
    (compose extension (.entity (.classifier i)) file).Comes run
      (outcome.bind fun text => parcelOf (ownPath options c file) (parseDirective text (some file.toString)))
      (composing options i run) := by
  have hfound : (composing options i run).model.classes[i]? = some c := h.model ▸ hclass
  refine compose_evaluated extension rfl h.reserves (run_scopeName hfound) ?_ houtcome
  show (outputPath extension (.entity (.classifier i)) file none).run (composing options i run) =
    (.ok (ownPath options c file), composing options i run)
  rw [outputPath, Stateful.run_bind_ok (run_required lookup_composing_output),
    Stateful.run_bind_ok (run_displayed_text _ _)]
  exact run_defaultPath hfound options.output

theorem compose_comes {text : String} (extension : String) (h : Provided options m run)
    (hclass : m.classes[i]? = some c)
    (htext : (evaluate file).run (composing options i run) = (.ok text, composing options i run)) :
    (compose extension (.entity (.classifier i)) file).Comes run
      (parcelOf (ownPath options c file) (parseDirective text (some file.toString)))
      (composing options i run) :=
  compose_classifier extension h hclass htext

end

end

end Codegen.Platform
