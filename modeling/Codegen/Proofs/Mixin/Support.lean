import Codegen.Generation.Hook
import Codegen.Proofs.Generation.DefaultPath
import Codegen.Proofs.Model.Acceptance
import Codegen.Proofs.Platform.Members

/-! The identifiers that templates are supported with. They are the dotted paths of the classes, whatever
the delimiter is that packages are written with, as long as it cannot be taken for part of a name. -/

namespace Codegen.Mixin

open Codegen.Model Codegen.Generation

/-- The members that read the paths of classes and of the classes that types refer to. -/
structure Supports (delimiter : String) (r : Registry) : Prop where
  typePath : r.get? .objectDatatype "qualified_identifier" =
    some ⟨.objectDatatype, "qualified_identifier", .qualifiedIdentifier delimiter, true⟩
  classPath : r.get? .classifier "qualified_identifier" =
    some ⟨.classifier, "qualified_identifier", .qualifiedIdentifier delimiter, true⟩
  package : r.get? .classifier "package_identifier" =
    some ⟨.classifier, "package_identifier", .packageIdentifier delimiter, true⟩

theorem supports_installSupport (s : SupportSettings) (r : Registry) :
    Supports s.delimiter (installSupport s r) := by
  constructor <;> simp [installSupport, supportMembers, Registry.get?_insert, Member.key]

theorem delimiter_supportSettings (mark : String) (options : Settings.Options) :
    (supportSettings mark options.value).delimiter = options.delimiter := by
  simp [supportSettings, Settings.Options.value, Settings.Options.fields, List.lookup_cons]

/-! Paths of classes. -/

theorem qualifiedName_eq_join (c : Model.Class) :
    c.qualifiedName = Text.join c.delimiter (c.package ++ [c.name]) := by
  rw [Class.qualifiedName, Class.inRootPackage, Class.packageName]
  by_cases hroot : c.package = []
  · rw [if_pos (List.isEmpty_iff.mpr hroot), hroot, List.nil_append, Text.join_singleton]
  · rw [if_neg (by simpa using hroot), Text.join_append c.delimiter hroot (List.cons_ne_nil _ _),
      Text.join_singleton]

theorem isIdentifier_of_mem_path {c : Model.Class} (hvalid : c.problems = []) {segment : String}
    (h : segment ∈ c.package ++ [c.name]) : Text.isIdentifier segment = true := by
  rcases List.mem_append.mp h with hsegment | hname
  · exact Class.isIdentifier_segment hvalid hsegment
  · rw [List.mem_singleton.mp hname]
    exact Class.isIdentifier_name hvalid

/-- A valid model, whose packages are written with a delimiter that no name can hold. -/
structure Delimits (delimiter : String) (m : Model) : Prop where
  foreign : ∃ ch ∈ delimiter.toList, ∀ s, Text.isIdentifier s = true → ch ∉ s.toList
  valid : m.problems = []
  written : ∀ c ∈ m.classes, c.delimiter = delimiter

section

variable {delimiter : String} {m : Model} (h : Delimits delimiter m)
include h

theorem Delimits.pathToIdentifier_join {segments : List String}
    (hsegments : ∀ segment ∈ segments, Text.isIdentifier segment = true) :
    pathToIdentifier (Text.join delimiter segments) delimiter "." = Text.join "." segments := by
  obtain ⟨ch, hmark, hforeign⟩ := h.foreign
  rw [pathToIdentifier]
  by_cases hnone : segments = []
  · rw [hnone]
    exact Text.replace_of_not_mem hmark List.not_mem_nil "."
  · exact Text.replace_join hmark hnone fun segment hsegment =>
      hforeign segment (hsegments segment hsegment)

theorem Delimits.pathToIdentifier_qualifiedName {c : Model.Class} (hc : c ∈ m.classes) :
    pathToIdentifier c.qualifiedName delimiter "." = Text.join "." (c.package ++ [c.name]) := by
  rw [qualifiedName_eq_join, h.written c hc]
  exact h.pathToIdentifier_join fun _ hsegment =>
    isIdentifier_of_mem_path (problems_eq_nil_of_mem h.valid hc) hsegment

variable {r : Registry} (hsupports : Supports delimiter r)
include hsupports

theorem Delimits.read_package {i : Nat} {c : Model.Class} (hclass : m.classes[i]? = some c) :
    Mixin.read m r (.entity (.classifier i)) "package_identifier" =
      .ok (.text (Text.join "." c.package)) := by
  have hc := List.mem_of_getElem? hclass
  obtain ⟨depth, hdepth⟩ := Platform.exists_depthBound_of_get? (m := m) hsupports.package
  have hproperty := Platform.isProperty_of_get? (Platform.element?_classifier hclass) rfl hsupports.package
    (by decide) rfl
  rw [Mixin.read, hdepth, Platform.readWithin_packageIdentifier hproperty
    (Platform.nativeMember?_classifier hclass _), Class.packageName, h.written c hc,
    h.pathToIdentifier_join]
  exact fun _ hsegment => Class.isIdentifier_segment (problems_eq_nil_of_mem h.valid hc) hsegment

theorem Delimits.read_class {i : Nat} {c : Model.Class} (hclass : m.classes[i]? = some c) :
    Mixin.read m r (.entity (.classifier i)) "qualified_identifier" =
      .ok (.text (Text.join "." (c.package ++ [c.name]))) := by
  obtain ⟨depth, hdepth⟩ := Platform.exists_depthBound_of_get? (m := m) hsupports.classPath
  have hproperty := Platform.isProperty_of_get? (Platform.element?_classifier hclass) rfl
    hsupports.classPath (by decide) rfl
  rw [Mixin.read, hdepth, Platform.readWithin_qualifiedIdentifier hproperty
    (Platform.nativeMember?_classifier hclass _),
    h.pathToIdentifier_qualifiedName (List.mem_of_getElem? hclass)]

theorem Delimits.read_type {i j k : Nat} {name : String} {comment : Option String} {c : Model.Class}
    (htype : m.typeAt? i j = some (.object name comment (some k))) (hclass : m.classes[k]? = some c) :
    readPath (Mixin.read m r) ["type", "qualified_identifier"] (.entity (.attr i j)) =
      Mixin.read m r (.entity (.classifier k)) "qualified_identifier" := by
  obtain ⟨owner, howner, a, hattribute, ha⟩ : ∃ owner, m.classes[i]? = some owner ∧
      ∃ a, owner.attributes[j]? = some a ∧ a.type = some (.object name comment (some k)) := by
    simpa [typeAt?, Option.bind_eq_some_iff] using htype
  have hattr : (Entity.attr i j).element? m = some (.attr a) := by
    simp [Entity.element?, howner, hattribute]
  have hdatatype : (Entity.datatype i j).element? m =
      some (.datatype (.object name comment (some k))) := by
    simp [Entity.element?, howner, hattribute, ha]
  have hread : Mixin.read m r (.entity (.attr i j)) "type" = .ok (.entity (.datatype i j)) := by
    refine Platform.read_native ?_
    rw [nativeMember?, hattr]
    simp [elementMember, attributeMember, ha]
  have hpath : nativeMember? m (.datatype i j) "class_name_with_path" = some (.text c.qualifiedName) := by
    rw [nativeMember?, hdatatype]
    simp [elementMember, datatypeMember, target?, hclass]
  obtain ⟨depth, hdepth⟩ := Platform.exists_depthBound_of_get? (m := m) hsupports.typePath
  have hproperty := Platform.isProperty_of_get? hdatatype rfl hsupports.typePath (by decide) rfl
  rw [h.read_class hsupports hclass, readPath, hread]
  show (Mixin.read m r (.entity (.datatype i j)) "qualified_identifier" >>= _) = _
  rw [Mixin.read, hdepth, Platform.readWithin_qualifiedIdentifier hproperty hpath,
    h.pathToIdentifier_qualifiedName (List.mem_of_getElem? hclass)]
  rfl

end

/-! Models that were read. -/

theorem delimits_of_ofValue {delimiter : String} {data : Value} {m : Model}
    (hforeign : ∃ ch ∈ delimiter.toList, ∀ s, Text.isIdentifier s = true → ch ∉ s.toList)
    (hread : ofValue data delimiter = .ok m) (hvalid : m.problems = []) : Delimits delimiter m := by
  refine ⟨hforeign, hvalid, fun c hc => ?_⟩
  obtain ⟨ch, hmark, -⟩ := hforeign
  have hdelimiter : delimiter ≠ "" := by
    rintro rfl
    cases hmark
  obtain ⟨spec, -, rfl⟩ := (ofValue_ok_iff hdelimiter).mp hread
  obtain ⟨written, -, rfl⟩ := List.mem_map.mp hc
  rfl

theorem exists_class_of_typeAt? {delimiter : String} {data : Value} {m : Model}
    (hdelimiter : delimiter ≠ "") (hread : ofValue data delimiter = .ok m) (hvalid : m.problems = [])
    {i j : Nat} {t : DataType} (htype : m.typeAt? i j = some t) (hobject : t.isObject = true) :
    ∃ k c, m.classes[k]? = some c ∧ t = .object c.name none (some k) := by
  obtain ⟨spec, -, rfl⟩ := (ofValue_ok_iff hdelimiter).mp hread
  rw [typeAt?_ofSpec] at htype
  match hname : spec.typeName? i j with
  | none | some "" =>
    rw [hname] at htype
    cases htype
  | some name =>
    rw [hname] at htype
    by_cases hempty : name = ""
    · rw [hempty] at htype
      cases htype
    · rw [resolveType_of_ne_empty _ hempty] at htype
      cases hfound : (ofSpec spec delimiter).findClass? name with
      | none =>
          rw [hfound] at htype
          cases htype
          cases hobject
      | some k =>
          obtain ⟨c, hclass⟩ : ∃ c, (ofSpec spec delimiter).classes[k]? = some c := by
            cases (findClass?_eq_some_iff (qualifiedNames_nodup hvalid)).mp hfound with
            | qualified hclass _ => exact ⟨_, hclass⟩
            | simple hclass _ _ _ => exact ⟨_, hclass⟩
          rw [hfound] at htype
          simp only [hclass, Option.map_some, Option.getD_some, Option.some.injEq] at htype
          exact ⟨k, c, hclass, htype.symm⟩

theorem join_path_inj {c d : Model.Class} (hc : c.problems = []) (hd : d.problems = [])
    (h : Text.join "." (c.package ++ [c.name]) = Text.join "." (d.package ++ [d.name])) :
    c.package = d.package ∧ c.name = d.name := by
  have hsplit : ∀ {e : Model.Class}, e.problems = [] →
      Text.split "." (Text.join "." (e.package ++ [e.name])) = e.package ++ [e.name] := fun he =>
    Text.split_join (c := '.') (by decide) (by simp) fun _ hsegment =>
      Text.dot_not_mem_of_isIdentifier (isIdentifier_of_mem_path he hsegment)
  have hsame := congrArg (Text.split ".") h
  rw [hsplit hc, hsplit hd] at hsame
  obtain ⟨hpackage, hname⟩ := List.append_inj' hsame rfl
  exact ⟨hpackage, List.singleton_inj.mp hname⟩

/-- In a valid model that was read with a delimiter no name can hold, the identifiers of classes are
their dotted paths. What an attribute's type is called is what the class is called that it refers to, and
no two classes have one identifier. -/
theorem identifiers_dotted {delimiter : String} {data : Value} {m : Model} {options : Settings.Options}
    (hforeign : ∃ ch ∈ delimiter.toList, ∀ s, Text.isIdentifier s = true → ch ∉ s.toList)
    (hread : ofValue data delimiter = .ok m) (hvalid : m.problems = [])
    (hoptions : options.delimiter = delimiter) (mark : String) (r : Registry) :
    let support := installSupport (supportSettings mark options.value) r
    let identifier := fun i => Mixin.read m support (.entity (.classifier i)) "qualified_identifier"
    (∀ i c, m.classes[i]? = some c →
      Mixin.read m support (.entity (.classifier i)) "package_identifier" =
        .ok (.text (Text.join "." c.package)) ∧
      identifier i = .ok (.text (Text.join "." (c.package ++ [c.name])))) ∧
    (∀ i j t, m.typeAt? i j = some t → t.isObject = true →
      ∃ k c, m.classes[k]? = some c ∧ t = .object c.name none (some k) ∧
        readPath (Mixin.read m support) ["type", "qualified_identifier"] (.entity (.attr i j)) =
          identifier k) ∧
    ∀ i < m.classes.length, ∀ j < m.classes.length, identifier i = identifier j → i = j := by
  intro support identifier
  have hdelimits := delimits_of_ofValue hforeign hread hvalid
  have hsupports : Supports delimiter support := by
    have h := supports_installSupport (supportSettings mark options.value) r
    rwa [delimiter_supportSettings, hoptions] at h
  have hdelimiter : delimiter ≠ "" := by
    rintro rfl
    obtain ⟨ch, hmark, -⟩ := hforeign
    cases hmark
  refine ⟨fun i c hclass =>
      ⟨hdelimits.read_package hsupports hclass, hdelimits.read_class hsupports hclass⟩,
    fun i j t htype hobject => ?_, fun i hi j hj hsame => ?_⟩
  · obtain ⟨k, c, hclass, rfl⟩ := exists_class_of_typeAt? hdelimiter hread hvalid htype hobject
    exact ⟨k, c, hclass, rfl, hdelimits.read_type hsupports htype hclass⟩
  · have hfirst := List.getElem?_eq_getElem hi
    have hsecond := List.getElem?_eq_getElem hj
    have htexts := ((hdelimits.read_class hsupports hfirst).symm.trans hsame).trans
      (hdelimits.read_class hsupports hsecond)
    obtain ⟨hpackage, hname⟩ := join_path_inj
      (problems_eq_nil_of_mem hvalid (List.mem_of_getElem? hfirst))
      (problems_eq_nil_of_mem hvalid (List.mem_of_getElem? hsecond))
      (Value.text.inj (Except.ok.inj htexts))
    exact class_inj hvalid (sharesDelimiter_of_ofValue hread) hfirst hsecond hpackage hname

/-! Classes of a package and of one inside it, with a delimiter that begins like a name. -/

def nestedClasses : List ClassSpec :=
  [namesakeClass "Order" "shop_:orders_" ["Customer"], namesakeClass "Customer" "shop" ["Order"]]

theorem identifiers_dotted_nestedClasses :
    let data := ModelSpec.document ⟨"model", nestedClasses⟩
    let m := ofSpec ⟨"model", nestedClasses⟩ "_:"
    let options : Settings.Options := { delimiter := "_:" }
    let support := installSupport (supportSettings "_" options.value) .empty
    ofValue data "_:" = .ok m ∧ m.problems = [] ∧ options.delimiter = "_:" ∧
      Mixin.read m support (.entity (.classifier 0)) "package_identifier" = .ok (.text "shop.orders_") ∧
      Mixin.read m support (.entity (.classifier 0)) "qualified_identifier" =
        .ok (.text "shop.orders_.Order") ∧
      readPath (Mixin.read m support) ["type", "qualified_identifier"] (.entity (.attr 1 0)) =
        .ok (.text "shop.orders_.Order") := by
  intro data m options support
  have hread : ofValue data "_:" = .ok m := by with_unfolding_all rfl
  have hvalid : m.problems = [] := by decide +kernel
  have hforeign : ∃ ch ∈ "_:".toList, ∀ s, Text.isIdentifier s = true → ch ∉ s.toList :=
    ⟨':', by decide, fun s hs => Text.not_mem_of_isIdentifier (by decide) (by decide) hs⟩
  obtain ⟨hclasses, htypes, -⟩ := @identifiers_dotted _ _ _ options hforeign hread hvalid rfl "_" .empty
  have hclass : ∃ c, m.classes[0]? = some c ∧ c.package = ["shop", "orders_"] ∧ c.name = "Order" :=
    ⟨_, rfl, by decide +kernel, rfl⟩
  obtain ⟨c, hc, hpackage, hname⟩ := hclass
  obtain ⟨hpackage_read, hclass_read⟩ := hclasses 0 c hc
  have htype : m.typeAt? 1 0 = some (.object "Order" none (some 0)) := by decide +kernel
  obtain ⟨k, d, -, hreferred, htype_read⟩ := htypes 1 0 _ htype rfl
  obtain rfl : 0 = k := by
    simp only [DataType.object.injEq, Option.some.injEq] at hreferred
    exact hreferred.2.2
  rw [hpackage] at hpackage_read
  rw [hpackage, hname] at hclass_read
  exact ⟨hread, hvalid, rfl, hpackage_read, hclass_read, htype_read.trans hclass_read⟩

end Codegen.Mixin
