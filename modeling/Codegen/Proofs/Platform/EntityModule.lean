import Codegen.Platform.Bundle
import Codegen.Proofs.Platform.Members
import Codegen.Proofs.Template.Sequence

/-! The module that is generated for a class: it begins with the header that all generated files have,
and imports, line by line, the classes that the attributes refer to. -/

namespace Codegen.Platform

open Codegen.Model Codegen.Template

/-! The nodes of the templates. -/

def importLoop : Node :=
  .loop (.one "attribute") (.part (.name "class") "object_attributes") none
    [.text "\nfrom ", .print (.part (.part (.part (.name "attribute") "type") "meta_class") "module_path"),
      .text " import ", .print (.part (.part (.name "attribute") "type") "name")] []

def titleNodes : List Node :=
  [.text "\n\"\"\"", .print (.part (.name "class") "name"), .text ".",
    .branch (.part (.name "class") "has_comment")
      [.text "\n", .loop (.one "line") (.part (.name "class") "comment_lines") none
        [.text "\n", .print (.name "line")] []] [],
    .text "\n\"\"\"\n\nfrom dataclasses import dataclass"]

def bodyNodes : List Node :=
  [.text "\n\n\n@dataclass\nclass ", .print (.part (.name "class") "name"), .text ":",
    .loop (.one "attribute") (.part (.name "class") "attributes") none
      [.text "\n    ", .print (.part (.name "attribute") "identifier_name"), .text ": ",
        .print (.filter (.part (.name "attribute") "type_name") "python_type" [] []),
        .text " | None = None"]
      [.text "\n    pass"],
    .text "\n"]

def entityNodes : List Node :=
  .inclusion (.constant (.text "python_header")) false true :: titleNodes ++ importLoop :: bodyNodes

def headerNodes : List Node :=
  [.text "# ", .inclusion (.constant (.text "generated_header")) false true]

theorem parse_entityModule : parse entityModule = .ok entityNodes := by
  refine parse_eq_of_parsesInto ?_
  unfold entityModule printed Platform.statement closeStatement
  simp only [String.toList_append, -String.reduceAppend]
  decide +kernel

theorem parse_platformHeader : parse platformHeader = .ok headerNodes := by
  refine parse_eq_of_parsesInto ?_
  unfold platformHeader Platform.statement
  simp only [String.toList_append, -String.reduceAppend]
  decide +kernel

/-! The lines that import classes. -/

/-- The line that imports the class of an attribute. -/
def importLine (delimiter : String) (m : Model) (a : Attribute) : String :=
  "\nfrom " ++ (a.type.bind m.target?).elim "" (importedModule delimiter) ++ " import " ++ a.typeName

def importLines (delimiter : String) (m : Model) (attributes : List Attribute) : String :=
  Text.join "" (attributes.map (importLine delimiter m))

section

variable {streams : Streams} {scope : Scope} {e : Expr} {owner v : Value} {name : String}

theorem part_of_read (h : Mixin.read scope.model scope.registry owner name = .ok v) :
    scope.part owner name = .ok v := by
  unfold Scope.part Scope.member?
  rw [h]
  rfl

theorem evaluate_part (howner : (e.evaluate scope).run streams = .ok (owner, streams))
    (hpart : scope.part owner name = .ok v) :
    ((Expr.part e name).evaluate scope).run streams = .ok (v, streams) := by
  rw [Expr.evaluate, Eval.bind_ok_iff]
  refine ⟨owner, streams, howner, ?_⟩
  rw [hpart]
  rfl

theorem evaluate_name (scope : Scope) (name : String) (streams : Streams) :
    ((Expr.name name).evaluate scope).run streams = .ok (scope.value name, streams) := rfl

end

section

variable {m : Model} {r : Mixin.Registry} {delimiter : String} {i j : Nat} {c : Model.Class} {a : Attribute}
  {t : DataType} (hclass : m.classes[i]? = some c) (hattribute : c.attributes[j]? = some a)
  (htype : a.type = some t)
include hclass hattribute htype

theorem read_type : Mixin.read m r (.entity (.attr i j)) "type" = .ok (.entity (.datatype i j)) := by
  refine read_native ?_
  have helement : (Entity.attr i j).element? m = some (.attr a) := by
    simp only [Entity.element?, hclass, hattribute, Option.bind_eq_bind, Option.bind_some, Option.map_some]
  rw [Mixin.nativeMember?, helement]
  show some (if a.type.isSome then Value.entity (.datatype i j) else .null) = _
  rw [htype]
  rfl

theorem element?_datatype : (Entity.datatype i j).element? m = some (.datatype t) := by
  simp only [Entity.element?, hclass, hattribute, htype, Option.bind_eq_bind, Option.bind_some,
    Option.map_some]

theorem read_datatype_name : Mixin.read m r (.entity (.datatype i j)) "name" = .ok (.text a.typeName) := by
  refine read_native ?_
  rw [Mixin.nativeMember?, element?_datatype hclass hattribute htype, Attribute.typeName, htype]
  rfl

theorem read_meta_class (hobject : t.isObject = true) :
    Mixin.read m r (.entity (.datatype i j)) "meta_class" = .ok
      (.ofOption (fun k => .entity (.classifier k)) ((Entity.datatype i j).targetClass? m)) := by
  refine read_native ?_
  rw [Mixin.nativeMember?, element?_datatype hclass hattribute htype]
  cases t with
  | plain name comment => cases hobject
  | object name comment target => rfl

omit hclass hattribute htype in
theorem lt_of_targetClass? {e : Entity} {k : Nat} (h : e.targetClass? m = some k) : k < m.classes.length := by
  unfold Entity.targetClass? at h
  split at h
  · split at h
    · cases h
      assumption
    · cases h
  · cases h

theorem target?_eq : m.target? t = ((Entity.datatype i j).targetClass? m).bind (m.classes[·]?) := by
  rw [Entity.targetClass?, element?_datatype hclass hattribute htype]
  cases t with
  | plain name comment => rfl
  | object name comment target =>
      cases target with
      | none => rfl
      | some k =>
          show m.classes[k]? = Option.bind (if k < m.classes.length then some k else none) _
          split
          · rfl
          · rename_i hbeyond
            exact List.getElem?_eq_none (Nat.le_of_not_lt hbeyond)

end

section

variable {delimiter : String} {scope : Scope} {i j : Nat} {c : Model.Class} {a : Attribute} {t : DataType}
  {streams : Streams} {include? : Inclusion}
  (hclass : scope.model.classes[i]? = some c) (hequips : Equips delimiter scope.registry)
include hclass hequips

theorem written_module_path (streams : Streams) (hattribute : c.attributes[j]? = some a) (htype : a.type = some t)
    (hobject : t.isObject = true) (hvalue : scope.value "attribute" = .entity (.attr i j)) :
    ∃ v, ((Expr.part (.part (.part (.name "attribute") "type") "meta_class") "module_path").evaluate
        scope).run streams = .ok (v, streams) ∧
      v.written scope.model = .ok ((scope.model.target? t).elim "" (importedModule delimiter)) := by
  have hattr : ((Expr.name "attribute").evaluate scope).run streams =
      .ok (.entity (.attr i j), streams) := by
    rw [evaluate_name, hvalue]
  have hmeta := evaluate_part (evaluate_part hattr (part_of_read (read_type hclass hattribute htype)))
    (part_of_read (read_meta_class hclass hattribute htype hobject))
  rw [target?_eq hclass hattribute htype]
  cases htarget : (Entity.datatype i j).targetClass? scope.model with
  | none =>
      rw [htarget] at hmeta
      exact ⟨_, evaluate_part hmeta rfl, rfl⟩
  | some k =>
      obtain ⟨target, hfound⟩ : ∃ target, scope.model.classes[k]? = some target :=
        ⟨_, List.getElem?_eq_getElem (lt_of_targetClass? htarget)⟩
      rw [htarget] at hmeta
      rw [Option.bind_some, hfound]
      exact ⟨_, evaluate_part hmeta (part_of_read (read_module_path hfound hequips)), rfl⟩

theorem render_import (hattribute : c.attributes[j]? = some a) (hobject : a.hasObjectType = true)
    (hvalue : scope.value "attribute" = .entity (.attr i j)) :
    (renderNodes include? false scope
      [.text "\nfrom ", .print (.part (.part (.part (.name "attribute") "type") "meta_class") "module_path"),
        .text " import ", .print (.part (.part (.name "attribute") "type") "name")]).run streams =
      .ok ((importLine delimiter scope.model a, scope), streams) := by
  obtain ⟨t, htype⟩ : ∃ t, a.type = some t := by
    cases htype : a.type with
    | none =>
        rw [Attribute.hasObjectType, htype] at hobject
        cases hobject
    | some t => exact ⟨t, rfl⟩
  rw [Attribute.hasObjectType, htype, Option.any_some] at hobject
  obtain ⟨v, hpath, hwritten⟩ :=
    written_module_path hclass hequips streams hattribute htype hobject hvalue
  have hattr : ((Expr.name "attribute").evaluate scope).run streams =
      .ok (.entity (.attr i j), streams) := by
    rw [evaluate_name, hvalue]
  have hname := evaluate_part (evaluate_part hattr (part_of_read (read_type hclass hattribute htype)))
    (part_of_read (read_datatype_name hclass hattribute htype))
  have hnodes := renderNodes_cons_ok (Node.render_text "\nfrom ") <|
    renderNodes_cons_ok (Node.render_print hpath hwritten) <|
    renderNodes_cons_ok (Node.render_text " import ") <|
    renderNodes_cons_ok (Node.render_print hname (Value.written_text _ _)) (renderNodes_nil include?)
  rw [hnodes, importLine, htype, Option.bind_some]
  simp only [String.append_assoc, String.append_empty]

theorem render_importLoop (hvalue : scope.value "class" = .entity (.classifier i)) :
    (importLoop.render include? false scope).run streams =
      .ok ((importLines delimiter scope.model c.objectAttributes, scope), streams) := by
  have hlist : scope.part (.entity (.classifier i)) "object_attributes" =
      .ok (.list (Mixin.attributeEntities scope.model i Attribute.hasObjectType)) :=
    part_of_read (read_native (nativeMember?_classifier hclass _))
  have hname : ((Expr.name "class").evaluate scope).run streams =
      .ok (.entity (.classifier i), streams) := by
    rw [evaluate_name, hvalue]
  have hsource := evaluate_part hname hlist
  rw [Mixin.attributeEntities, hclass] at hsource
  have hlines : c.objectAttributes =
      (c.attributes.zipIdx.filter fun p => p.1.hasObjectType).map Prod.fst := by
    have hfilter := List.filter_map (f := Prod.fst) (p := Attribute.hasObjectType) (l := c.attributes.zipIdx)
    rw [List.zipIdx_map_fst] at hfilter
    exact hfilter
  rw [importLines, hlines, List.map_map]
  refine Node.render_rounds hsource rfl ?_
  rintro ⟨a, j⟩ hpair
  obtain ⟨hmem, hobject⟩ := List.mem_filter.mp hpair
  refine ⟨_, render_import (c := c) hclass hequips (j := j) ?_ hobject (Scope.value_bind scope _ _)⟩
  exact List.mem_zipIdx_iff_getElem?.mp hmem

end

/-! The whole module. -/

section

variable {engine : Engine} {scope after : Scope} {streams left : Streams} {text : String}
  (hheader : engine.partials.lookup "python_header" = some platformHeader)
include hheader

end

end Codegen.Platform
