import Codegen.Proofs.Generation.Helpers
import Codegen.Proofs.Generation.Property
import Codegen.Proofs.Template.Printed

/-! Helpers that variables hide. A helper is the function of its name as long as no variable has that name, and the
filter of its name in any case; a body that goes out as the property of that name makes the difference. -/

namespace Codegen.Template

variable {engine : Engine} {m : Model} {r : Mixin.Registry} {bindings : List (String × Value)}
  {source name argument : String} {helper : Function Value} {e : Expr} {outcome : Except Failure Value} {v : Value}

/-- What a template that prints an outcome and nothing else comes to. -/
def printing (m : Model) (outcome : Except Failure Value) : Except Failure String :=
  (outcome >>= (·.written m)).mapError Engine.ending

/-- An expression without closed parts that can be printed as it stands. -/
structure Expr.Stands (e : Expr) (engine : Engine) : Prop where
  fold : e.fold engine.beforehand = e
  known : e.unknown? engine.beforehand = none
  writable : e.holds Expr.isUnwritable = false
  named : e.holds Expr.repeatsName = false

theorem compile_print (hparse : parse source = .ok [.print e]) (h : e.Stands engine) :
    engine.compile source = .ok ⟨[.print e]⟩ := by
  refine Engine.compile_of_nodes hparse ?_ ?_ ?_ ?_
  · rw [foldNodes, Node.fold, h.fold, foldNodes]
  · simp [objectionIn?, Node.objection?, Node.objection?.ofExpr, h.known]
  · simp [nodesHold, Node.holds, h.writable]
  · simp [nodesHold, Node.holds, h.named]

theorem render_print (hparse : parse source = .ok [.print e]) (h : e.Stands engine)
    (hfree : bindings.lookup Engine.reservedVariable = none)
    (hvalue : e.evaluate { model := m, registry := r, helpers := engine.helpers, bindings } = liftM outcome) :
    engine.render m r source bindings = printing m outcome := by
  rw [Engine.render_of_compile (compile_print hparse h) hfree]
  simp only [renderNodes, Node.render, hvalue]
  cases outcome with
  | error failure => rfl
  | ok w =>
      have hpure : (liftM (Except.ok w : Except Failure Value) : Eval Value) = pure w := rfl
      have hprinting : printing m (.ok w) = (w.written m).mapError Engine.ending := rfl
      rw [hprinting, hpure]
      simp only [pure_bind]
      cases w.written m with
      | error failure => rfl
      | ok text => exact congrArg Except.ok String.append_empty

theorem render_taken (hparse : parse source = .ok [.print e]) (h : e.Stands engine)
    (htaken : bindings.lookup Engine.reservedVariable = some v) :
    engine.render m r source bindings = .error .variableReserved := by
  obtain ⟨before, rest, hsplit, _⟩ := List.lookup_eq_some_iff.mp htaken
  rw [Engine.render_reserved m r source (by simp [hsplit]), compile_print hparse h]
  rfl

section

variable {scope : Scope} (hv : scope.value argument = v)

theorem stands_call (name argument : String) : (Expr.call (.name name) [.name argument] []).Stands engine :=
  ⟨rfl, rfl, rfl, rfl⟩

theorem stands_filter (argument : String) (hhelper : engine.helpers.lookup name = some helper) :
    (Expr.filter (.name argument) name [] []).Stands engine := by
  have hknown : engine.beforehand.knowsFilter name = true := by
    rw [Scope.knowsFilter, show engine.beforehand.helpers.lookup name = _ from hhelper]
    rfl
  refine ⟨rfl, ?_, rfl, rfl⟩
  simp [Expr.unknown?, unknownInList?, unknownInNamed?, hknown]

include hv

theorem evaluate_call (name : String) : (Expr.call (.name name) [.name argument] []).evaluate scope =
    liftM (scope.call (scope.value name) [v] []) := by
  simp only [Expr.evaluate, evaluateItems, evaluateNamed, hv, pure_bind]

theorem evaluate_filter (hhelper : scope.helpers.lookup name = some helper) :
    (Expr.filter (.name argument) name [] []).evaluate scope =
      liftM (Mixin.invoke scope.model scope.registry helper [v] []) := by
  simp only [Expr.evaluate, evaluateItems, evaluateNamed, hv, pure_bind]
  exact Generation.filtered_of_helper hhelper v [] []

end

/-! Calls. -/

section

variable {scope : Scope} {positional : List Value} {named : List (String × Value)} {failure : Failure}

theorem Scope.call_of_going (h : ∀ failure, Mixin.invoke scope.model scope.registry helper positional named =
    .error failure → failure.endsIteration = false) : scope.call (.function helper) positional named =
      Mixin.invoke scope.model scope.registry helper positional named := by
  rw [call, Mixin.invokeValue]
  cases houtcome : Mixin.invoke scope.model scope.registry helper positional named with
  | ok w => rfl
  | error failure => simp only [h failure houtcome, Bool.false_eq_true, if_false]

theorem Scope.call_of_ending (h : Mixin.invoke scope.model scope.registry helper positional named = .error failure)
    (hends : failure.endsIteration = true) :
    scope.call (.function helper) positional named = .ok nothingCalled := by
  rw [call, Mixin.invokeValue, h]
  simp only [hends, if_true]

/-- Why a value that is no function cannot be called. -/
def notCallable (m : Model) : Value → Failure
  | .missing what => .undefined what
  | v => .misuse (.call (v.typeLabel m))

theorem Scope.call_of_isFunction (hv : v.isFunction = false) :
    scope.call v positional named = .error (notCallable scope.model v) := by
  cases v <;> first | rfl | cases hv

theorem ending_notCallable (m : Model) (v : Value) : Engine.ending (notCallable m v) = notCallable m v := by
  cases v <;> rfl

end

end Codegen.Template

namespace Codegen.Generation

open Codegen.Files Codegen.Model Codegen.Template

/-- A template that calls a function with a variable. -/
def callOf (name argument : String) : String := Platform.printed (name ++ "(" ++ argument ++ ")")

/-- A template that puts a variable through a filter. -/
def filterOf (name argument : String) : String := Platform.printed (argument ++ " | " ++ name)

def Run.scope (run : Run) : Scope :=
  { model := run.model, registry := run.registry, helpers := run.engine.helpers, bindings := run.desk.context }

/-- What a template comes to when it is rendered with the context of a run and one more variable. -/
def Run.renderWith (run : Run) (argument : String) (v : Value) (source : String) : Except Failure String :=
  run.engine.render run.model run.registry source (Table.put argument v run.desk.context)

section

variable {run : Run} {name argument : String} {v w : Value} {helper : Function Value}
  (hname : IsVariable name) (hargument : IsVariable argument)
  (hfree : (Table.put argument v run.desk.context).lookup Engine.reservedVariable = none)

include hname hargument

theorem renderWith_taken (hhelper : run.engine.helpers.lookup name = some helper)
    (htaken : (Table.put argument v run.desk.context).lookup Engine.reservedVariable = some w) :
    run.renderWith argument v (callOf name argument) = .error .variableReserved ∧
      run.renderWith argument v (filterOf name argument) = .error .variableReserved :=
  ⟨render_taken (parse_call hname hargument) (stands_call name argument) htaken,
    render_taken (parse_filter hname hargument) (stands_filter argument hhelper) htaken⟩

include hfree

theorem renderWith_filter (hhelper : run.engine.helpers.lookup name = some helper) :
    run.renderWith argument v (filterOf name argument) =
      printing run.model (Mixin.invoke run.model run.registry helper [v] []) := by
  refine render_print (parse_filter hname hargument) (stands_filter argument hhelper) hfree ?_
  refine evaluate_filter ?_ hhelper
  rw [Scope.value, Table.lookup_put]

theorem renderWith_call (hne : name ≠ argument) {function : Value}
    (hfunction : run.scope.value name = function) :
    run.renderWith argument v (callOf name argument) = printing run.model (run.scope.call function [v] []) := by
  rw [Scope.value, Run.scope, ← Table.lookup_put_of_ne hne v] at hfunction
  refine render_print (parse_call hname hargument) (stands_call name argument) hfree ?_
  rw [evaluate_call, Scope.value, hfunction]
  · rfl
  · rw [Scope.value, Table.lookup_put]

end

/-- A helper as a function and as a filter, when bodies may have gone out as properties before. As a filter it comes
to what it makes of the value. As a function it comes to the same as long as no body went out under its name, unless
it says that an iteration is over: a call of it is then nothing, and the filter a fault. After such a body it
cannot be called any more, and one that has a name which contexts have from the start never can. Where the reserved
variable is taken neither is rendered. -/
theorem through_helper (options : Settings.Options) (start : Run)
    (hcontext : start.desk.context = Context.initial (.entity .model) options) (hsent : start.sent = [])
    (acts : List Act) {name argument : String} (hname : IsVariable name) (hargument : IsVariable argument)
    (hne : name ≠ argument) (hleaves : ∀ act ∈ acts, act.LeavesAlone name) {helper : Function Value}
    (hhelper : (start.through acts).engine.helpers.lookup name = some helper) (v : Value) :
    let run := start.through acts
    let bodies := Output.bodiesFor name run.sent
    let made := Mixin.invoke run.model run.registry helper [v] []
    let asFunction := run.renderWith argument v (callOf name argument)
    let asFilter := run.renderWith argument v (filterOf name argument)
    match (Table.put argument v run.desk.context).lookup Engine.reservedVariable with
    | some _ => asFunction = .error .variableReserved ∧ asFilter = .error .variableReserved
    | none =>
      asFilter = printing run.model made ∧
      (name ∉ Context.reserved → bodies = [] →
        (∀ failure, made = .error failure → failure.endsIteration = false) → asFunction = asFilter) ∧
      (name ∉ Context.reserved → bodies = [] →
        ∀ failure, made = .error failure → failure.endsIteration = true →
          asFunction = .ok "" ∧
            asFilter = .error (.fault { kind := "RuntimeError", message := "generator raised StopIteration" })) ∧
      (name ∉ Context.reserved → bodies ≠ [] → asFunction = .error (.misuse (.call "list"))) ∧
      (name ∈ Context.reserved → (∀ act ∈ acts, ∀ subject ∈ act.subjects, subject.isList = false) →
        (∀ act ∈ acts, ∀ name ∈ Context.reserved, act.LeavesAlone name) →
        ∃ w, run.desk.context.lookup name = some w ∧
          (w.isFunction = false → asFunction = .error (notCallable run.model w))) := by
  intro run bodies made asFunction asFilter
  split
  · rename_i w htaken
    exact renderWith_taken hname hargument hhelper htaken
  rename_i hfree
  have hfilter := renderWith_filter hname hargument hfree hhelper
  have hlisted (hown : name ∉ Context.reserved) : run.desk.context.lookup name = Context.listed bodies := by
    refine Run.listed_through hown hleaves ?_
    rw [hcontext, hsent]
    exact Context.lookup_initial _ options hown
  have hunhidden (hown : name ∉ Context.reserved) (hnone : bodies = []) :
      run.scope.value name = .function helper := by
    refine value_of_helper hhelper ((hlisted hown).trans ?_)
    rw [hnone]
    rfl
  have hhidden {w : Value} (hw : run.desk.context.lookup name = some w) (hplain : w.isFunction = false) :
      asFunction = .error (notCallable run.model w) := by
    refine (renderWith_call hname hargument hfree hne (by rw [Scope.value, Run.scope, hw])).trans ?_
    rw [Scope.call_of_isFunction hplain]
    exact congrArg Except.error (ending_notCallable _ w)
  refine ⟨hfilter, fun hown hnone hgoing => ?_, fun hown hnone failure hfailure hends => ⟨?_, ?_⟩,
    fun hown hsome => ?_, fun hreserved hsubjects hkeeps => ?_⟩
  · refine (renderWith_call hname hargument hfree hne (hunhidden hown hnone)).trans (Eq.trans ?_ hfilter.symm)
    exact congrArg (printing run.model) (Scope.call_of_going hgoing)
  · refine (renderWith_call hname hargument hfree hne (hunhidden hown hnone)).trans ?_
    exact congrArg (printing run.model) (Scope.call_of_ending hfailure hends)
  · refine hfilter.trans ?_
    rw [show Mixin.invoke run.model run.registry helper [v] [] = _ from hfailure]
    show Except.error (Engine.ending failure) = _
    rw [Engine.ending, if_pos hends]
  · obtain ⟨first, rest, hcons⟩ := List.exists_cons_of_ne_nil hsome
    have hlist : run.desk.context.lookup name = some (.ofTexts (first :: rest)) := by
      rw [hlisted hown, hcons]
      rfl
    exact hhidden hlist rfl
  · have hreserves : run.desk.context.Reserves options := by
      refine Run.through_invariant (P := fun run => run.desk.context.Reserves options) ?_
        fun act hact _ h => Act.reserves (hsubjects act hact) (hkeeps act hact) h
      rw [hcontext]
      exact .initial options
    obtain ⟨w, hw, _⟩ := hreserves.taken name hreserved
    exact ⟨w, hw, hhidden hw⟩

/-! A helper, before and after a body went out under its name. -/

def shoutingRun : Run :=
  let start := Run.start
    { tree := ⟨[(["p"], .directory), (["p", "a"], .file (.bytes "##output property x/shout\nloud".toUTF8))]⟩
      directory := [] } .empty
  { start with
    engine := start.engine.addHelper "shout" .upper
    desk := { start.desk with context := .initial (.entity .model) {} } }

def shoutActs : List Act := [.render "" .null (.ofString "/p/a")]

theorem isVariable_shout : IsVariable "shout" := ⟨by decide, by decide⟩

theorem isVariable_word : IsVariable "word" := ⟨by decide, by decide⟩

theorem shoutActs_leaveAlone (name : String) : ∀ act ∈ shoutActs, act.LeavesAlone name := by
  simp only [shoutActs, List.forall_mem_singleton]
  trivial

theorem through_shoutActs : (shoutingRun.through shoutActs).engine.helpers.lookup "shout" = some .upper ∧
    (Table.put "word" (.text "ok") (shoutingRun.through shoutActs).desk.context).lookup
      Engine.reservedVariable = none ∧
    Output.bodiesFor "shout" (shoutingRun.through shoutActs).sent = ["loud"] := by
  refine ⟨?_, Option.isNone_iff_eq_none.mp (by decide +kernel), by decide +kernel⟩
  with_unfolding_all rfl

theorem through_helper_shouted :
    shoutingRun.renderWith "word" (.text "ok") (callOf "shout" "word") = .ok "OK" ∧
    (shoutingRun.through shoutActs).renderWith "word" (.text "ok") (callOf "shout" "word") =
      .error (.misuse (.call "list")) ∧
    (shoutingRun.through shoutActs).renderWith "word" (.text "ok") (filterOf "shout" "word") = .ok "OK" := by
  have hprinting : ∀ run : Run, printing run.model (Mixin.invoke run.model run.registry .upper [.text "ok"] []) =
      .ok "OK" := by
    intro run
    have hupper : Text.upper "ok" = "OK" := by decide
    exact congrArg Except.ok hupper
  constructor
  · have hbefore := through_helper {} shoutingRun rfl rfl [] isVariable_shout isVariable_word (by decide) nofun
      (show shoutingRun.engine.helpers.lookup "shout" = some .upper from rfl) (.text "ok")
    dsimp only at hbefore
    split at hbefore
    · rename_i htaken
      cases htaken
    · obtain ⟨hfilter, halike, -⟩ := hbefore
      exact (halike (by decide) rfl nofun).trans (hfilter.trans (hprinting _))
  · obtain ⟨hhelper, hfree, hbodies⟩ := through_shoutActs
    have hafter := through_helper {} shoutingRun rfl rfl shoutActs isVariable_shout isVariable_word (by decide)
      (shoutActs_leaveAlone "shout") hhelper (.text "ok")
    dsimp only at hafter
    rw [hfree, hbodies] at hafter
    obtain ⟨hfilter, -, -, hcall, -⟩ := hafter
    exact ⟨hcall (by decide) (by decide), hfilter.trans (hprinting _)⟩

end Codegen.Generation
