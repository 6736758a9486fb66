import Codegen.Proofs.Model.Breaches
import Codegen.Proofs.Platform.Generated

/-! The fields of generated classes. Each attribute gives a class one field, under the name that it has in
generated code; hidden and read-only attributes carry a mark there, and with the mark the name of one may
be the name of another. -/

namespace Codegen.Model

/-- Whether an attribute carries the mark in generated code. -/
def Attribute.isMarked (a : Attribute) : Bool := a.isReadOnly || !a.isPublic

/-- An attribute that carries the mark clashes with one that does not and has the marked name. -/
structure Attribute.Clashes (mark : String) (a b : Attribute) : Prop where
  marked : a.isMarked = true
  plain : b.isMarked = false
  name : b.name = mark ++ a.name

section

variable {mark : String} {a b : Attribute} {attributes : List Attribute}

theorem identifierName_marked (h : a.isMarked = true) : identifierName mark a = mark ++ a.name :=
  if_pos h

theorem identifierName_plain (h : a.isMarked = false) : identifierName mark a = a.name :=
  if_neg (show ¬ a.isMarked = true by simp [h])

theorem Attribute.Clashes.identifierName_eq (h : a.Clashes mark b) :
    identifierName mark a = identifierName mark b := by
  rw [identifierName_marked h.marked, identifierName_plain h.plain, h.name]

theorem clashes_of_identifierName_eq (hnames : a.name ≠ b.name)
    (h : identifierName mark a = identifierName mark b) : a.Clashes mark b ∨ b.Clashes mark a := by
  cases ha : a.isMarked <;> cases hb : b.isMarked
  · rw [identifierName_plain ha, identifierName_plain hb] at h
    exact absurd h hnames
  · rw [identifierName_plain ha, identifierName_marked hb] at h
    exact .inr ⟨hb, ha, h⟩
  · rw [identifierName_marked ha, identifierName_plain hb] at h
    exact .inl ⟨ha, hb, h.symm⟩
  · rw [identifierName_marked ha, identifierName_marked hb] at h
    exact absurd ((String.append_right_inj mark).mp h) hnames

theorem identifierNames_nodup_iff (hnames : (attributes.map Attribute.name).Nodup) (mark : String) :
    (attributes.map (identifierName mark)).Nodup ↔
      ∀ a ∈ attributes, ∀ b ∈ attributes, ¬ a.Clashes mark b := by
  constructor
  · intro hnodup a ha b hb hclash
    obtain rfl := List.inj_on_of_nodup_map hnodup ha hb hclash.identifierName_eq
    exact Bool.false_ne_true (hclash.plain.symm.trans hclash.marked)
  · intro hfree
    refine hnames.of_map.map_on fun a ha b hb hsame => ?_
    by_contra hne
    have hother : a.name ≠ b.name := fun h => hne (List.inj_on_of_nodup_map hnames ha hb h)
    rcases clashes_of_identifierName_eq hother hsame with hclash | hclash
    · exact hfree a ha b hb hclash
    · exact hfree b hb a ha hclash

end

end Codegen.Model

namespace Codegen.Platform

open Codegen.Files Codegen.Generation Codegen.Mixin Codegen.Model Codegen.Template

/-! What the template of the modules comes to. -/

def generatedNodes : List Node :=
  [.text "Generated by mdagen from model ", .print (.part (.name "model") "name"), .text ". Do not edit."]

theorem parse_generatedHeader : parse generatedHeader = .ok generatedNodes := by
  refine parse_eq_of_parsesInto ?_
  unfold generatedHeader printed
  simp only [String.toList_append, -String.reduceAppend]
  decide +kernel

def fieldNodes : List Node :=
  [.text "\n    ", .print (.part (.name "attribute") "identifier_name"), .text ": ",
    .print (.filter (.part (.name "attribute") "type_name") "python_type" [] []),
    .text " | None = None"]

theorem bodyNodes_eq : bodyNodes =
    [.text "\n\n\n@dataclass\nclass ", .print (.part (.name "class") "name"), .text ":",
      .loop (.one "attribute") (.part (.name "class") "attributes") none fieldNodes [.text "\n    pass"],
      .text "\n"] := rfl

/-- The lines of a class's comment, below its name. -/
def commentText (width : Int) (c : Model.Class) : String :=
  if hasComment c.comment then
    "\n" ++ Text.join "" ((reflowComment c.comment width).map fun line => "\n" ++ line)
  else ""

/-- What the values of an attribute are annotated with. -/
def annotation (a : Attribute) : String := if a.typeName = "" then "object" else annotate a.typeName

/-- The field that an attribute gives its class, on a line of its own. -/
def fieldLine (mark : String) (a : Attribute) : String :=
  "\n    " ++ identifierName mark a ++ ": " ++ annotation a ++ " | None = None"

/-- The class with its fields, in the order of the attributes. -/
def classBody (mark : String) (c : Model.Class) : String :=
  "\n\n\n@dataclass\nclass " ++ c.name ++ ":"
    ++ (if c.attributes.isEmpty then "\n    pass" else Text.join "" (c.attributes.map (fieldLine mark)))
    ++ "\n"

/-- The module of a class in front of the class itself. -/
def moduleFront (delimiter : String) (width : Int) (m : Model) (c : Model.Class) : String :=
  "# Generated by mdagen from model " ++ m.name ++ ". Do not edit.\n\"\"\"" ++ c.name ++ "."
    ++ commentText width c ++ "\n\"\"\"\n\nfrom dataclasses import dataclass"
    ++ importLines delimiter m c.objectAttributes

/-- What the template of the modules finds: the headers, the annotations, the members of classes and
attributes, and the model and the class at hand. -/
structure Supplied (delimiter : String) (width : Int) (mark : String) (i : Nat) (engine : Engine) (r : Registry)
    (bindings : List (String × Value)) : Prop where
  header : engine.partials.lookup "python_header" = some platformHeader
  generated : engine.partials.lookup "generated_header" = some generatedHeader
  types : engine.helpers.lookup "python_type" = some .typeHint
  members : Equips delimiter r
  comments : r.lookup? .classifier "comment_lines" =
    some ⟨.element, "comment_lines", .commentLines width, true⟩
  identifiers : r.get? .attr "identifier_name" = some ⟨.attr, "identifier_name", .identifierName mark, true⟩
  model : bindings.lookup "model" = some (.entity .model)
  classifier : bindings.lookup "class" = some (.entity (.classifier i))
  free : bindings.lookup Engine.reservedVariable = none

/-! Reading the members of attributes. -/

section

variable {m : Model} {r : Registry} {mark : String} {i j : Nat} {c : Model.Class} {a : Attribute}
  (hclass : m.classes[i]? = some c) (hattribute : c.attributes[j]? = some a)
include hclass hattribute

theorem element?_attr : (Entity.attr i j).element? m = some (.attr a) := by
  simp only [Entity.element?, hclass, hattribute, Option.bind_eq_bind, Option.bind_some, Option.map_some]

theorem nativeMember?_attr (name : String) :
    nativeMember? m (.attr i j) name = elementMember m (.attr i j) (.attr a) name := by
  rw [nativeMember?, element?_attr hclass hattribute]

theorem read_type_name : Mixin.read m r (.entity (.attr i j)) "type_name" = .ok (.text a.typeName) :=
  read_native (nativeMember?_attr hclass hattribute _)

theorem read_identifier_name (hidentifiers : r.get? .attr "identifier_name" =
    some ⟨.attr, "identifier_name", .identifierName mark, true⟩) :
    Mixin.read m r (.entity (.attr i j)) "identifier_name" = .ok (.text (identifierName mark a)) := by
  obtain ⟨depth, hdepth⟩ := exists_depthBound_of_get? (m := m) hidentifiers
  have hproperty := isProperty_of_get? (element?_attr hclass hattribute) rfl hidentifiers (by decide) rfl
  have hread : ∀ name v, elementMember m (.attr i j) (.attr a) name = some v →
      readWithin m r (calling m) (depth + 2) (.entity (.attr i j)) name = .ok v :=
    fun name v hv => readWithin_native ((nativeMember?_attr hclass hattribute name).trans hv)
  rw [Mixin.read, hdepth]
  refine readWithin_property hproperty ?_
  show (readWithin m r (calling m) (depth + 2) (.entity (.attr i j)) "is_read_only" >>= _) = _
  rw [hread "is_read_only" _ rfl, hread "is_public" _ rfl, hread "name" _ rfl, identifierName]
  cases a.isReadOnly <;> cases a.isPublic <;> rfl

end

section

variable {delimiter mark : String} {width : Int} {i j : Nat} {engine : Engine} {m : Model} {r : Registry}
  {bindings : List (String × Value)} {c : Model.Class} {a : Attribute} {streams : Streams} {scope : Scope}
  {include? : Inclusion}

theorem evaluate_python_type {subject : Expr} {s : String}
    (hsubject : (subject.evaluate scope).run streams = .ok (.text s, streams))
    (htypes : scope.helpers.lookup "python_type" = some .typeHint) :
    ((Expr.filter subject "python_type" [] []).evaluate scope).run streams =
      .ok (.text (if s = "" then "object" else annotate s), streams) := by
  rw [Expr.evaluate, Eval.bind_ok_iff]
  refine ⟨_, streams, hsubject, ?_⟩
  show (scope.filtered "python_type" (.text s) [] []).run streams = _
  rw [Scope.filtered, htypes]
  show Except.ok (Value.text (if (Value.text s).isTrue then annotate s else "object"), streams) = _
  by_cases hs : s = ""
  · rw [hs]
    rfl
  · have htrue : (Value.text s).isTrue = true := by simp [Value.isTrue, hs]
    rw [htrue, if_neg hs]
    rfl

/-! The class and its fields. -/

theorem render_field (hclass : scope.model.classes[i]? = some c) (hattribute : c.attributes[j]? = some a)
    (hidentifiers : scope.registry.get? .attr "identifier_name" =
      some ⟨.attr, "identifier_name", .identifierName mark, true⟩)
    (htypes : scope.helpers.lookup "python_type" = some .typeHint)
    (hvalue : scope.value "attribute" = .entity (.attr i j)) :
    (renderNodes include? false scope fieldNodes).run streams = .ok ((fieldLine mark a, scope), streams) := by
  have hattr : ((Expr.name "attribute").evaluate scope).run streams = .ok (.entity (.attr i j), streams) := by
    rw [evaluate_name, hvalue]
  have hname := evaluate_part hattr (part_of_read (read_identifier_name hclass hattribute hidentifiers))
  have htype := evaluate_python_type (evaluate_part hattr (part_of_read (read_type_name hclass hattribute))) htypes
  have hnodes := renderNodes_cons_ok (Node.render_text "\n    ") <|
    renderNodes_cons_ok (Node.render_print hname (Value.written_text _ _)) <|
    renderNodes_cons_ok (Node.render_text ": ") <|
    renderNodes_cons_ok (Node.render_print htype (Value.written_text _ _)) <|
    renderNodes_cons_ok (Node.render_text " | None = None") (renderNodes_nil include?)
  rw [fieldNodes, hnodes, fieldLine, annotation]
  simp only [String.append_assoc, String.append_empty]

theorem render_bodyNodes (hclass : scope.model.classes[i]? = some c)
    (hidentifiers : scope.registry.get? .attr "identifier_name" =
      some ⟨.attr, "identifier_name", .identifierName mark, true⟩)
    (htypes : scope.helpers.lookup "python_type" = some .typeHint)
    (hvalue : scope.value "class" = .entity (.classifier i)) :
    (renderNodes include? false scope bodyNodes).run streams = .ok ((classBody mark c, scope), streams) := by
  have howner : ((Expr.name "class").evaluate scope).run streams = .ok (.entity (.classifier i), streams) := by
    rw [evaluate_name, hvalue]
  have hname : ((Expr.part (.name "class") "name").evaluate scope).run streams = .ok (.text c.name, streams) :=
    evaluate_part howner (part_of_read (read_native (nativeMember?_classifier hclass _)))
  have hsource : ((Expr.part (.name "class") "attributes").evaluate scope).run streams =
      .ok (.list (c.attributes.zipIdx.map fun p => .entity (.attr i p.2)), streams) := by
    refine evaluate_part howner (part_of_read (read_native ((nativeMember?_classifier hclass _).trans ?_)))
    show some (Value.list (attributeEntities scope.model i fun _ => true)) = _
    rw [attributeEntities, hclass]
    simp
  have hloop : ((Node.loop (.one "attribute") (.part (.name "class") "attributes") none fieldNodes
      [.text "\n    pass"]).render include? false scope).run streams =
      .ok ((if c.attributes.zipIdx.isEmpty then "\n    pass"
        else Text.join "" (c.attributes.zipIdx.map fun p => fieldLine mark p.1), scope), streams) := by
    refine Node.render_loop_list hsource rfl (fun p hp => ?_) ⟨scope, rfl⟩
    have hvalue := Scope.value_bind scope "attribute" (.entity (.attr i p.2))
    exact ⟨_, render_field hclass (List.mem_zipIdx_iff_getElem?.mp hp) hidentifiers htypes hvalue⟩
  have hlines : c.attributes.zipIdx.map (fun p => fieldLine mark p.1) = c.attributes.map (fieldLine mark) := by
    refine (List.map_map (f := Prod.fst) (g := fieldLine mark)).symm.trans ?_
    rw [List.zipIdx_map_fst]
  have hempty : c.attributes.zipIdx.isEmpty = c.attributes.isEmpty := by
    cases c.attributes <;> rfl
  rw [hlines, hempty] at hloop
  have hnodes := renderNodes_cons_ok (Node.render_text "\n\n\n@dataclass\nclass ") <|
    renderNodes_cons_ok (Node.render_print hname (Value.written_text _ _)) <|
    renderNodes_cons_ok (Node.render_text ":") <|
    renderNodes_cons_ok hloop <|
    renderNodes_cons_ok (Node.render_text "\n") (renderNodes_nil include?)
  rw [bodyNodes_eq, hnodes]
  unfold classBody
  simp only [String.append_assoc, String.append_empty]

/-! The front of the module. -/

theorem compile_platformHeader (engine : Engine) : engine.compile platformHeader = .ok ⟨headerNodes⟩ :=
  Engine.compile_of_nodes parse_platformHeader rfl rfl rfl rfl

theorem compile_generatedHeader (engine : Engine) : engine.compile generatedHeader = .ok ⟨generatedNodes⟩ :=
  Engine.compile_of_nodes parse_generatedHeader rfl rfl rfl rfl

theorem render_inclusion {name text : String}
    (h : (include? scope name).run streams = .ok (some text, streams)) :
    ((Node.inclusion (.constant (.text name)) false true).render include? false scope).run streams =
      .ok ((text, scope), streams) := by
  rw [Node.render, Eval.bind_ok_iff]
  refine ⟨.text name, streams, rfl, Eval.bind_ok_iff.mpr ⟨text, streams, ?_, rfl⟩⟩
  exact Eval.bind_ok_iff.mpr ⟨_, streams, h, rfl⟩

theorem read_name (m : Model) (r : Mixin.Registry) (e : Entity) :
    Mixin.read m r (.entity e) "name" = .ok (.text (e.name m)) := by
  refine read_native ?_
  rw [Mixin.nativeMember?, Entity.name]
  cases e.element? m <;> rfl

theorem run_generatedHeader (depth : Nat)
    (hgenerated : engine.partials.lookup "generated_header" = some generatedHeader)
    (hmodel : scope.value "model" = .entity .model) :
    (engine.inclusion (depth + 1) scope "generated_header").run streams =
      .ok (some ("Generated by mdagen from model " ++ scope.model.name ++ ". Do not edit."), streams) := by
  have hname : ((Expr.part (.name "model") "name").evaluate
      { scope with template := some "generated_header" }).run streams = .ok (.text scope.model.name, streams) := by
    refine evaluate_part ?_ (part_of_read (read_name _ _ .model))
    rw [evaluate_name]
    exact congrArg (fun v => Except.ok (v, streams)) hmodel
  have hnodes := renderNodes_cons_ok (Node.render_text "Generated by mdagen from model ") <|
    renderNodes_cons_ok (Node.render_print hname (Value.written_text _ _)) <|
    renderNodes_cons_ok (Node.render_text ". Do not edit.") (renderNodes_nil (engine.inclusion depth))
  have hrun := Engine.inclusion_of_nodes hgenerated (compile_generatedHeader engine) hnodes
  rwa [String.append_empty, ← String.append_assoc] at hrun

theorem run_platformHeader (depth : Nat) (hheader : engine.partials.lookup "python_header" = some platformHeader)
    (hgenerated : engine.partials.lookup "generated_header" = some generatedHeader)
    (hmodel : scope.value "model" = .entity .model) :
    (engine.inclusion (depth + 2) scope "python_header").run streams =
      .ok (some ("# Generated by mdagen from model " ++ scope.model.name ++ ". Do not edit."), streams) := by
  have hgiven : (engine.inclusion (depth + 1) { scope with template := some "python_header" } "generated_header").run
      streams = .ok (some ("Generated by mdagen from model " ++ scope.model.name ++ ". Do not edit."), streams) :=
    run_generatedHeader depth hgenerated hmodel
  have hnodes := renderNodes_cons_ok (Node.render_text "# ") <|
    renderNodes_cons_ok (render_inclusion hgiven) (renderNodes_nil (engine.inclusion (depth + 1)))
  have hrun := Engine.inclusion_of_nodes hheader (compile_platformHeader engine) hnodes
  rw [hrun, String.append_empty]
  simp only [← String.append_assoc]
  rfl

theorem render_titleNodes {scope : Scope} (hclass : scope.model.classes[i]? = some c)
    (hequips : Equips delimiter scope.registry)
    (hcomments : scope.registry.lookup? .classifier "comment_lines" =
      some ⟨.element, "comment_lines", .commentLines width, true⟩)
    (hvalue : scope.value "class" = .entity (.classifier i)) :
    (renderNodes include? false scope titleNodes).run streams =
      .ok (("\n\"\"\"" ++ c.name ++ "." ++ commentText width c
        ++ "\n\"\"\"\n\nfrom dataclasses import dataclass", scope), streams) := by
  have howner : ((Expr.name "class").evaluate scope).run streams = .ok (.entity (.classifier i), streams) := by
    rw [evaluate_name, hvalue]
  have hname : ((Expr.part (.name "class") "name").evaluate scope).run streams = .ok (.text c.name, streams) :=
    evaluate_part howner (part_of_read (read_native (nativeMember?_classifier hclass _)))
  have hcomment : ((Expr.part (.name "class") "has_comment").evaluate scope).run streams =
      .ok (.bool (hasComment c.comment), streams) :=
    evaluate_part howner (part_of_read (read_native (nativeMember?_classifier hclass _)))
  have hlines := evaluate_part howner (part_of_read (read_comment_lines hclass hequips hcomments))
  have hloop : ((Node.loop (.one "line") (.part (.name "class") "comment_lines") none
      [.text "\n", .print (.name "line")] []).render include? false scope).run streams =
      .ok ((Text.join "" ((reflowComment c.comment width).map fun line => "\n" ++ line), scope), streams) := by
    refine Node.render_rounds hlines rfl fun line _ => ⟨scope.bind "line" (.text line), ?_⟩
    have hline : ((Expr.name "line").evaluate (scope.bind "line" (.text line))).run streams =
        .ok (.text line, streams) := by
      rw [evaluate_name, Scope.value_bind]
    rw [renderNodes_cons_ok (Node.render_text "\n") <|
      renderNodes_cons_ok (Node.render_print hline (Value.written_text _ _)) (renderNodes_nil include?),
      String.append_empty]
  have hbranch : ((Node.branch (.part (.name "class") "has_comment")
      [.text "\n", .loop (.one "line") (.part (.name "class") "comment_lines") none
        [.text "\n", .print (.name "line")] []] []).render include? false scope).run streams =
      .ok ((commentText width c, scope), streams) := by
    refine Node.render_branch hcomment ?_
    rw [commentText]
    show (renderNodes include? false scope (if hasComment c.comment = true then _ else _)).run streams = _
    split
    · rw [renderNodes_cons_ok (Node.render_text "\n") (renderNodes_cons_ok hloop (renderNodes_nil include?)),
        String.append_empty]
    · exact renderNodes_nil include?
  have hnodes := renderNodes_cons_ok (Node.render_text "\n\"\"\"") <|
    renderNodes_cons_ok (Node.render_print hname (Value.written_text _ _)) <|
    renderNodes_cons_ok (Node.render_text ".") <|
    renderNodes_cons_ok hbranch <|
    renderNodes_cons_ok (Node.render_text "\n\"\"\"\n\nfrom dataclasses import dataclass")
      (renderNodes_nil include?)
  rw [titleNodes, hnodes]
  simp only [String.append_assoc, String.append_empty]

theorem Supplied.render_entityModule (h : Supplied delimiter width mark i engine r bindings)
    (hclass : m.classes[i]? = some c) :
    engine.render m r entityModule bindings = .ok (moduleFront delimiter width m c ++ classBody mark c) := by
  let scope : Scope := { model := m, registry := r, helpers := engine.helpers, bindings }
  have hmodel : scope.value "model" = .entity .model := by rw [Scope.value, h.model]
  have hvalue : scope.value "class" = .entity (.classifier i) := by rw [Scope.value, h.classifier]
  have hknown : engine.beforehand.knowsFilter "python_type" = true := by
    rw [Scope.knowsFilter, show engine.beforehand.helpers.lookup "python_type" = _ from h.types]
    rfl
  have hobjection : objectionIn? engine.beforehand false entityNodes = none := by
    simp [entityNodes, titleNodes, importLoop, bodyNodes, objectionIn?, Node.objection?, Node.objection?.ofExpr,
      Expr.unknown?, unknownInList?, unknownInNamed?, hknown, Target.binds, nodesBind, Node.binds, roundsName]
  have hheader : (engine.inclusion 900 scope "python_header").run [] =
      .ok (some ("# Generated by mdagen from model " ++ m.name ++ ". Do not edit."), []) :=
    run_platformHeader 898 h.header h.generated hmodel
  have hnodes := renderNodes_cons_ok (render_inclusion hheader) <|
    renderNodes_append (render_titleNodes hclass h.members h.comments hvalue) <|
    renderNodes_cons_ok (render_importLoop hclass h.members hvalue) <|
    render_bodyNodes hclass h.identifiers h.types hvalue
  rw [Engine.render_of_nodes parse_entityModule rfl hobjection rfl rfl h.free hnodes]
  unfold moduleFront
  simp only [String.append_assoc]
  rfl

end

/-! The modules that a run makes. -/

/-- Besides the platform, a run has at hand what the template of the modules relies on. -/
structure Fitted (options : Settings.Options) (m : Model) (width : Int) (mark : String) (run : Run) : Prop
    extends Provided options m run where
  generated : run.engine.partials.lookup "generated_header" = some generatedHeader
  types : run.engine.helpers.lookup "python_type" = some .typeHint
  comments : run.registry.lookup? .classifier "comment_lines" =
    some ⟨.element, "comment_lines", .commentLines width, true⟩
  identifiers : run.registry.get? .attr "identifier_name" =
    some ⟨.attr, "identifier_name", .identifierName mark, true⟩
  named : run.desk.context.lookup "model" = some (.entity .model)
  free : run.desk.context.lookup Engine.reservedVariable = none

section

variable {options : Settings.Options} {m : Model} {width : Int} {mark : String} {run : Run} {i : Nat}
  {c : Model.Class} {file : Path}

theorem Fitted.supplied (h : Fitted options m width mark run) (i : Nat) :
    Supplied options.delimiter width mark i run.engine run.registry (composing options i run).desk.context where
  header := h.header
  generated := h.generated
  types := h.types
  members := h.members
  comments := h.comments
  identifiers := h.identifiers
  model := (lookup_composing (by decide) (by decide)).trans h.named
  classifier := lookup_composing_class
  free := (lookup_composing (by decide) (by decide)).trans h.free

theorem compose_module (extension : String) (h : Fitted options m width mark run) (hclass : m.classes[i]? = some c)
    (hsource : run.desk.workspace.readText file = .ok entityModule) :
    (compose extension (.entity (.classifier i)) file).Comes run
      (.ok (⟨.overwrite, ownPath options c file, moduleFront options.delimiter width m c ++ classBody mark c⟩,
        false)) (composing options i run) := by
  have hread : (composing options i run).desk.workspace.readText file = .ok entityModule := hsource
  have hmodel : (composing options i run).model = m := h.model
  have htext : (evaluate file).run (composing options i run) =
      (.ok (moduleFront options.delimiter width m c ++ classBody mark c), composing options i run) := by
    rw [run_evaluate_of_read hread, hmodel]
    exact congrArg (·, composing options i run) ((h.supplied i).render_entityModule hclass)
  have hcomes := compose_comes extension h.toProvided hclass htext
  obtain ⟨rest, hfront⟩ : ∃ rest, moduleFront options.delimiter width m c ++ classBody mark c = "# " ++ rest := by
    unfold moduleFront
    rw [show "# Generated by mdagen from model " = "# " ++ "Generated by mdagen from model " from rfl]
    exact ⟨_, by simp only [String.append_assoc]; rfl⟩
  rw [hfront] at hcomes ⊢
  rwa [parseDirective_comment] at hcomes

end

/-- Attributes of a class have the same name in generated code exactly when they clash: one is hidden or
read-only, and the other is neither and has the marked name of the first. Templates read these names, and
the class that is generated has a line for each attribute, in their order, which begins with the name. -/
theorem fields_distinct {m : Model} (hvalid : m.problems = []) {i : Nat} {c : Model.Class}
    (hclass : m.classes[i]? = some c) (mark : String) :
    ((c.attributes.map (identifierName mark)).Nodup ↔
      ∀ a ∈ c.attributes, ∀ b ∈ c.attributes, ¬ a.Clashes mark b) ∧
    ∀ {options : Settings.Options} {width : Int} {run : Run}, Fitted options m width mark run →
      (∀ j a, c.attributes[j]? = some a →
        Mixin.read m run.registry (.entity (.attr i j)) "identifier_name" = .ok (.text (identifierName mark a))) ∧
      ∀ extension file, run.desk.workspace.readText file = .ok entityModule →
        (compose extension (.entity (.classifier i)) file).Comes run
          (.ok (⟨.overwrite, ownPath options c file,
            moduleFront options.delimiter width m c ++ classBody mark c⟩, false))
          (composing options i run) := by
  have hnames : (c.attributes.map Attribute.name).Nodup :=
    ((wellFormed_iff.mpr hvalid).classes c (List.mem_of_getElem? hclass)).attributes_nodup
  refine ⟨identifierNames_nodup_iff hnames mark, fun hfitted => ⟨fun j a hattribute => ?_, ?_⟩⟩
  · exact read_identifier_name hclass hattribute hfitted.identifiers
  · exact fun extension file hsource => compose_module extension hfitted hclass hsource

/-! A class with a hidden attribute, and another one that has the marked name of it. -/

def namesakes : Model.Class :=
  { name := "Order", attributes := [{ name := "_id" }, { name := "id", visibility := "private" }] }

def namesakesRun : Run :=
  let start := Run.start ⟨⟨[(["Model.py.j2"], .file (textFile entityModule))]⟩, []⟩ (installPlatform {} .empty)
  { start with
    model := { classes := [namesakes] }
    engine :=
      { helpers := [("python_type", .typeHint)]
        partials := [("python_header", platformHeader), ("generated_header", generatedHeader)] }
    desk := { start.desk with context := .initial (.entity .model) {} } }

theorem fitted_namesakesRun : Fitted {} { classes := [namesakes] } 80 "_" namesakesRun where
  model := rfl
  members := equips_installPlatform {} .empty
  header := rfl
  reserves := .initial {}
  generated := rfl
  types := rfl
  comments := rfl
  identifiers := rfl
  named := rfl
  free := rfl

theorem readText_namesakesRun :
    namesakesRun.desk.workspace.readText (.ofString "Model.py.j2") = .ok entityModule := by
  have hpath : Path.ofString "Model.py.j2" = ⟨"", ["Model.py.j2"]⟩ := by decide +kernel
  refine readText_of_readBytes (by rw [hpath]; rfl) ?_
  unfold entityModule printed Platform.statement closeStatement
  simp only [String.toList_append, -String.reduceAppend]
  decide +kernel

theorem fields_distinct_marked :
    ¬ (namesakes.attributes.map (identifierName "_")).Nodup ∧
    (compose "" (.entity (.classifier 0)) (.ofString "Model.py.j2")).Comes namesakesRun
      (.ok (⟨.overwrite, "./gen/Order.py", "# Generated by mdagen from model model. Do not edit.\n\"\"\"Order.\n"
        ++ "\"\"\"\n\nfrom dataclasses import dataclass\n\n\n@dataclass\nclass Order:"
        ++ "\n    _id: object | None = None\n    _id: object | None = None\n"⟩, false))
      (composing {} 0 namesakesRun) := by
  obtain ⟨hdistinct, hrun⟩ := fields_distinct (m := { classes := [namesakes] }) (by decide +kernel) (i := 0) rfl "_"
  obtain ⟨_, hmodule⟩ := hrun fitted_namesakesRun
  refine ⟨fun hnodup => ?_, ?_⟩
  · refine hdistinct.mp hnodup { name := "id", visibility := "private" } (by simp [namesakes]) { name := "_id" }
      (by simp [namesakes]) ⟨?_, ?_, ?_⟩ <;> decide +kernel
  · have hcomes := hmodule "" _ readText_namesakesRun
    have hpath : ownPath {} namesakes (.ofString "Model.py.j2") = "./gen/Order.py" := by decide +kernel
    have hbody : moduleFront "::" 80 { classes := [namesakes] } namesakes ++ classBody "_" namesakes =
        "# Generated by mdagen from model model. Do not edit.\n\"\"\"Order.\n"
          ++ "\"\"\"\n\nfrom dataclasses import dataclass\n\n\n@dataclass\nclass Order:"
          ++ "\n    _id: object | None = None\n    _id: object | None = None\n" := by decide +kernel
    rw [hpath] at hcomes
    exact hbody ▸ hcomes

end Codegen.Platform
