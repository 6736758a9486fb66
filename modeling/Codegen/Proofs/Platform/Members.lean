import Codegen.Mixin.Support
import Codegen.Model.Support
import Codegen.Proofs.Files.Name
import Codegen.Proofs.Mixin.Access
import Codegen.Proofs.Mixin.Registry
import Codegen.Proofs.Model.Validity
import Codegen.Proofs.Text.Naming

/-! The modules that generated classes are imported from, and the members that the bundled platform
registers for them, which templates read. -/

namespace Codegen.Platform

open Codegen.Mixin Codegen.Model

/-- The package of a class, as it stands in front of the name of a module. -/
def packageModule (delimiter : String) (c : Model.Class) : String :=
  pathToIdentifier c.packageName delimiter "."

/-- The module that a class is imported from. -/
def importedModule (delimiter : String) (c : Model.Class) : String :=
  if c.inRootPackage then c.moduleName else packageModule delimiter c ++ "." ++ c.moduleName

/-- The members that the names of modules are put together from, under their names. -/
def moduleMembers (delimiter : String) : List (String × Function Value) :=
  [("module_path", .modulePath), ("module_name", .moduleName), ("service_path", .servicePath),
   ("package_identifier", .packageIdentifier delimiter)]

/-- The registered members of classes are those of the platform. -/
def Equips (delimiter : String) (r : Registry) : Prop :=
  ∀ member ∈ moduleMembers delimiter,
    r.get? .classifier member.1 = some ⟨.classifier, member.1, member.2, true⟩

theorem equips_installPlatform (s : SupportSettings) (r : Registry) :
    Equips s.delimiter (installPlatform s r) := by
  simp only [Equips, moduleMembers, List.forall_mem_cons]
  refine ⟨?_, ?_, ?_, ?_, nofun⟩ <;>
    simp [installPlatform, installSupport, platformMembers, supportMembers, Registry.get?_insert, Member.key]

/-! Reading members. -/

section

variable {m : Model} {r : Registry} {conduct : Mixin.Conduct} {depth : Nat} {e : Entity} {name : String}
  {v : Value}

theorem readWithin_native (h : nativeMember? m e name = some v) :
    readWithin m r conduct (depth + 1) (.entity e) name = .ok v := by
  have hread : readEntity m r conduct (readWithin m r conduct depth) e name = .ok v := by
    rw [readEntity, h]
  exact hread

theorem read_native (h : nativeMember? m e name = some v) : Mixin.read m r (.entity e) name = .ok v :=
  readWithin_native h

theorem two_le_entityCount (m : Model) : 2 ≤ entityCount m := by
  suffices hfold : ∀ (classes : List Model.Class) (n : Nat), n ≤ classes.foldl (fun n c =>
      n + 1 + c.stereotypes.length + 2 * c.attributes.length) n from hfold m.classes 2
  intro classes
  induction classes with
  | nil => exact Nat.le_refl
  | cons c rest ih =>
      intro n
      have hmore : n ≤ n + 1 + c.stereotypes.length + 2 * c.attributes.length := by omega
      exact Nat.le_trans hmore (ih _)

theorem readWithin_property {implementation : Function Value} (h : IsProperty m r e name implementation)
    (hconduct : conduct (readWithin m r conduct depth) implementation e = .ok v) :
    readWithin m r conduct (depth + 1) (.entity e) name = .ok v := by
  have hread : readEntity m r conduct (readWithin m r conduct depth) e name = _ := readEntity_property h
  rw [hconduct] at hread
  exact hread

/-- What is registered under the kind of an element is read from it, if the element has no such member
of its own. -/
theorem isProperty_of_get? {element : Element} {kind : EntityKind} {others : List EntityKind}
    {implementation : Function Value} (helement : e.element? m = some element)
    (hkinds : element.type.kinds = kind :: others)
    (hregistered : r.get? kind name = some ⟨kind, name, implementation, true⟩)
    (hadmissible : Text.hasStart "__" name = false) (hnative : elementMember m e element name = none) :
    IsProperty m r e name implementation := by
  refine ⟨hadmissible, ?_, ⟨kind, name, implementation, true⟩, ?_, rfl, rfl⟩
  · rw [nativeMember?, helement]
    exact hnative
  · rw [registered?, helement, Option.bind_some, Registry.lookup?, hkinds, List.findSome?_cons, hregistered]

theorem exists_depthBound_of_get? {kind : EntityKind} {member : Member}
    (h : r.get? kind name = some member) : ∃ depth, depthBound m r = depth + 3 := by
  have hsize : 1 ≤ r.size := List.length_pos_of_mem (List.mem_of_find?_eq_some h)
  have hbound := Nat.mul_le_mul (two_le_entityCount m) hsize
  exact ⟨entityCount m * r.size - 2, by rw [depthBound]; omega⟩

theorem readWithin_packageIdentifier {delimiter path : String}
    (h : IsProperty m r e name (.packageIdentifier delimiter))
    (hpath : nativeMember? m e "package_name" = some (.text path)) :
    readWithin m r (calling m) (depth + 2) (.entity e) name =
      .ok (.text (pathToIdentifier path delimiter ".")) := by
  refine readWithin_property h ?_
  show (readWithin m r (calling m) (depth + 1) (.entity e) "package_name" >>= _) = _
  rw [readWithin_native hpath]
  rfl

theorem readWithin_qualifiedIdentifier {delimiter path : String}
    (h : IsProperty m r e name (.qualifiedIdentifier delimiter))
    (hpath : nativeMember? m e "class_name_with_path" = some (.text path)) :
    readWithin m r (calling m) (depth + 2) (.entity e) name =
      .ok (.text (pathToIdentifier path delimiter ".")) := by
  refine readWithin_property h ?_
  show (readWithin m r (calling m) (depth + 1) (.entity e) "class_name_with_path" >>= _) = _
  rw [readWithin_native hpath]
  rfl

end

section

variable {m : Model} {r : Registry} {delimiter : String} {i : Nat} {c : Model.Class}
  (hclass : m.classes[i]? = some c)
include hclass

theorem element?_classifier : (Entity.classifier i).element? m = some (.classifier c) := by
  rw [Entity.element?, hclass, Option.map_some]

theorem nativeMember?_classifier (name : String) :
    nativeMember? m (.classifier i) name = elementMember m (.classifier i) (.classifier c) name := by
  rw [nativeMember?, element?_classifier hclass]

theorem onClass_classifier (use : Model.Class → Except Failure Value) :
    onClass m (.entity (.classifier i)) use = use c := by
  rw [onClass, element?_classifier hclass]

variable (hequips : Equips delimiter r)
include hequips

theorem isProperty_of_mem {member : String × Function Value} (hmember : member ∈ moduleMembers delimiter) :
    IsProperty m r (.classifier i) member.1 member.2 := by
  have hown : ∀ member ∈ moduleMembers delimiter, Text.hasStart "__" member.1 = false ∧
      elementMember m (.classifier i) (.classifier c) member.1 = none := by
    simp only [moduleMembers, List.forall_mem_cons]
    exact ⟨⟨by decide, rfl⟩, ⟨by decide, rfl⟩, ⟨by decide, rfl⟩, ⟨by decide, rfl⟩, nofun⟩
  obtain ⟨hadmissible, hnative⟩ := hown member hmember
  exact isProperty_of_get? (element?_classifier hclass) rfl (hequips member hmember) hadmissible hnative

theorem readWithin_module_name (depth : Nat) :
    readWithin m r (calling m) (depth + 1) (.entity (.classifier i)) "module_name" =
      .ok (.text c.moduleName) := by
  have hmember : ("module_name", .moduleName) ∈ moduleMembers delimiter := by simp [moduleMembers]
  refine readWithin_property (isProperty_of_mem hclass hequips hmember) ?_
  exact onClass_classifier hclass _

theorem readWithin_package_identifier (depth : Nat) :
    readWithin m r (calling m) (depth + 2) (.entity (.classifier i)) "package_identifier" =
      .ok (.text (packageModule delimiter c)) := by
  have hmember : ("package_identifier", .packageIdentifier delimiter) ∈ moduleMembers delimiter := by
    simp [moduleMembers]
  exact readWithin_packageIdentifier (isProperty_of_mem hclass hequips hmember)
    (nativeMember?_classifier hclass _)

theorem readWithin_module_path (depth : Nat) :
    readWithin m r (calling m) (depth + 3) (.entity (.classifier i)) "module_path" =
      .ok (.text (importedModule delimiter c)) := by
  have hmember : ("module_path", .modulePath) ∈ moduleMembers delimiter := by simp [moduleMembers]
  refine readWithin_property (isProperty_of_mem hclass hequips hmember) ?_
  refine (onClass_classifier hclass _).trans ?_
  rw [importedModule]
  split
  · exact readWithin_module_name hclass hequips (depth + 1)
  · rw [readWithin_package_identifier hclass hequips depth, readWithin_module_name hclass hequips (depth + 1)]
    rfl

omit hclass in
theorem exists_depthBound : ∃ depth, depthBound m r = depth + 3 :=
  exists_depthBound_of_get? (hequips ("module_name", .moduleName) (by simp [moduleMembers]))

theorem read_module_name : Mixin.read m r (.entity (.classifier i)) "module_name" = .ok (.text c.moduleName) := by
  obtain ⟨depth, hdepth⟩ := exists_depthBound (m := m) hequips
  rw [Mixin.read, hdepth]
  exact readWithin_module_name hclass hequips (depth + 2)

theorem read_module_path : Mixin.read m r (.entity (.classifier i)) "module_path" =
    .ok (.text (importedModule delimiter c)) := by
  obtain ⟨depth, hdepth⟩ := exists_depthBound (m := m) hequips
  rw [Mixin.read, hdepth]
  exact readWithin_module_path hclass hequips depth

theorem read_comment_lines {width : Int} (hcomments : r.lookup? .classifier "comment_lines" =
    some ⟨.element, "comment_lines", .commentLines width, true⟩) :
    Mixin.read m r (.entity (.classifier i)) "comment_lines" = .ok (.ofTexts (reflowComment c.comment width)) := by
  obtain ⟨depth, hdepth⟩ := exists_depthBound (m := m) hequips
  have hproperty : IsProperty m r (.classifier i) "comment_lines" (.commentLines width) := by
    have hregistered : registered? m r (.classifier i) "comment_lines" =
        some ⟨.element, "comment_lines", .commentLines width, true⟩ := by
      rw [registered?, element?_classifier hclass, Option.bind_some]
      exact hcomments
    refine ⟨by decide, ?_, _, hregistered, rfl, rfl⟩
    rw [nativeMember?_classifier hclass]
    rfl
  rw [Mixin.read, hdepth]
  refine readWithin_property hproperty ?_
  have hcomment : readWithin m r (calling m) (depth + 2) (.entity (.classifier i)) "comment" =
      .ok (.ofOption .text c.comment) :=
    readWithin_native (nativeMember?_classifier hclass _)
  show (readWithin m r (calling m) (depth + 2) (.entity (.classifier i)) "comment" >>= _) = _
  rw [hcomment]
  cases c.comment <;> rfl

end

/-! The names of modules, and the two ways of writing a name of several words. -/

theorem read_module_name_installed {m : Model} {i : Nat} {c : Model.Class} (hclass : m.classes[i]? = some c)
    (hname : Text.isIdentifier c.name = true) (s : SupportSettings) (r : Registry) :
    Mixin.read m (installPlatform s r) (.entity (.classifier i)) "module_name" =
      .ok (.text (Text.snakeCase c.name)) := by
  rw [read_module_name hclass (equips_installPlatform s r), Class.moduleName, Text.moduleName_eq_snakeCase hname]

/-- On names of plain words the two conversions undo each other: camel case is the words written together with
capitals, snake case the words with low lines. Each conversion leads to texts that it leaves as they are, also
where letters have forms of several characters or look at what stands around them. The platform names the module
of a class by the snake case of its name. -/
theorem namings_inverse_stable :
    (∀ (word : String) (words : List String), (∀ own ∈ word :: words, Text.IsNameWord own) →
      let name := Text.join "_" (word :: words)
      Text.camelCase name = Text.join "" (word :: words.map Text.upperFirst) ∧
      Text.snakeCase (Text.camelCase name) = name ∧
      Text.camelCase (Text.snakeCase (Text.camelCase name)) = Text.camelCase name) ∧
    (∀ text, Text.IsSnakeCase (Text.snakeCase text) ∧
      Text.snakeCase (Text.snakeCase text) = Text.snakeCase text) ∧
    (∀ text, Text.IsCamelCase (Text.camelCase text) ∧
      Text.camelCase (Text.camelCase text) = Text.camelCase text) ∧
    ∀ (m : Model) (s : SupportSettings) (r : Registry) (i : Nat) (c : Model.Class),
      m.classes[i]? = some c → Text.isIdentifier c.name = true →
      Mixin.read m (installPlatform s r) (.entity (.classifier i)) "module_name" =
        .ok (.text (Text.snakeCase c.name)) := by
  refine ⟨fun word words hwords => ?_, fun text => ?_, fun text => ?_, fun m s r i c hclass hname => ?_⟩
  · intro name
    have hcamel := Text.camelCase_join hwords
    have hsnake : Text.snakeCase (Text.camelCase name) = name := by
      rw [hcamel]
      exact Text.snakeCase_join_upperFirst hwords
    exact ⟨hcamel, hsnake, congrArg Text.camelCase hsnake⟩
  · exact ⟨Text.isSnakeCase_snakeCase text, (Text.isSnakeCase_snakeCase text).snakeCase_eq⟩
  · exact ⟨Text.isCamelCase_camelCase text, (Text.isCamelCase_camelCase text).camelCase_eq⟩
  · exact read_module_name_installed hclass hname s r

/-! A name of three words, texts with letters that change their number or look around, and a class with such a
name. -/

def greekClass : Model.Class := { name := "OrderLineΣΟΦΟΣ", package := ["orders"] }

theorem namings_inverse_stable_greek :
    (∀ own ∈ ["order", "line", "v2"], Text.IsNameWord own) ∧
    Text.camelCase "order_line_v2" = "orderLineV2" ∧ Text.snakeCase "orderLineV2" = "order_line_v2" ∧
    Text.camelCase (Text.snakeCase "orderLineV2") = "orderLineV2" ∧
    Text.snakeCase (Text.snakeCase "Ǆ-İΣ") = Text.snakeCase "Ǆ-İΣ" ∧ Text.snakeCase "Ǆ-İΣ" = "ǆ_i̇ς" ∧
    Text.camelCase (Text.camelCase "İn_ŉ") = Text.camelCase "İn_ŉ" ∧ Text.camelCase "İn_ŉ" = "i̇nʼN" ∧
    Text.isIdentifier greekClass.name = true ∧
    Mixin.read { classes := [greekClass] } (installPlatform {} .empty) (.entity (.classifier 0)) "module_name" =
      .ok (.text "order_lineσοφος") := by
  obtain ⟨hwords, hsnake, hcamel, hmodule⟩ := namings_inverse_stable
  have hplain : ∀ own ∈ ["order", "line", "v2"], Text.IsNameWord own := by decide +kernel
  obtain ⟨htogether, happart, hagain⟩ := hwords "order" ["line", "v2"] hplain
  have hjoin : Text.join "_" ["order", "line", "v2"] = "order_line_v2" := by decide +kernel
  have hcapitals : Text.join "" ("order" :: ["line", "v2"].map Text.upperFirst) = "orderLineV2" := by
    decide +kernel
  rw [hjoin, hcapitals] at htogether
  rw [hjoin, htogether] at happart hagain
  have hname : Text.isIdentifier greekClass.name = true := by decide +kernel
  have hread := hmodule { classes := [greekClass] } {} .empty 0 greekClass rfl hname
  have hgreek : Text.snakeCase greekClass.name = "order_lineσοφος" := by decide +kernel
  rw [hgreek] at hread
  exact ⟨hplain, htogether, happart, hagain, (hsnake _).2, by decide +kernel, (hcamel _).2, by decide +kernel,
    hname, hread⟩

end Codegen.Platform
