import Codegen.Model.File
import Codegen.Proofs.Log.Saying
import Codegen.Proofs.Model.Validity
import Codegen.Proofs.Text.Character
import Codegen.Proofs.Text.Splitting

/-! Models written as documents and read back. -/

namespace Codegen

theorem Value.agrees_text (s t : String) : (text s).agrees (text t) = (s == t) := by
  simp [agrees, bothUndefined, same]

@[simp] theorem Value.field?_cons_text (name key : String) (v : Value) (fields : List (Value × Value)) :
    field? name ((text key, v) :: fields) = if key = name then some v else field? name fields := by
  by_cases h : key = name <;> simp [field?, lookup?, agrees_text, h]

namespace Checked

variable {α : Type}

theorem field_of_lookup {name : String} {check : Value → Checked α} {otherwise : Checked α}
    {fields : List (Value × Value)} {v : Value} {x : α} (hfield : Value.field? name fields = some v)
    (hcheck : check v = .ok x) : field name check otherwise fields = .ok x := by
  rw [field, hfield]
  exact congrArg (under (.field name)) hcheck

theorem items_map {check : Value → Checked α} {write : α → Value} {xs : List α}
    (h : ∀ x ∈ xs, check (write x) = .ok x) (i : Nat) : items check i (xs.map write) = .ok xs := by
  induction xs generalizing i with
  | nil => rfl
  | cons x others ih =>
      obtain ⟨hfirst, hothers⟩ := List.forall_mem_cons.mp h
      rw [List.map_cons, items, hfirst, ih hothers (i + 1)]
      rfl

theorem text_text (s : String) : Checked.text (.text s) = .ok s := rfl

theorem boolean_bool (b : Bool) : boolean (.bool b) = .ok b := rfl

theorem optionalText_ofOption (s : Option String) : optionalText (.ofOption .text s) = .ok s := by
  cases s <;> rfl

end Checked

namespace Model

/-! Specifications as documents: what is written is what is checked. -/

namespace AttributeSpec

def fields (spec : AttributeSpec) : List (Value × Value) :=
  [(.text "name", .text spec.name), (.text "type", .ofOption .text spec.type),
    (.text "visibility", .text spec.visibility), (.text "read_only", .bool spec.isReadOnly),
    (.text "comment", .ofOption .text spec.comment)]

def document (spec : AttributeSpec) : Value := .map spec.fields

theorem check_document {spec : AttributeSpec} (h : spec.visibility ∈ visibilities) :
    check spec.document = .ok spec := by
  have hname : Value.field? "name" spec.fields = some (.text spec.name) := by simp [fields]
  have htype : Value.field? "type" spec.fields = some (.ofOption .text spec.type) := by simp [fields]
  have hvisibility : Value.field? "visibility" spec.fields = some (.text spec.visibility) := by
    simp [fields]
  have hreadOnly : Value.field? "read_only" spec.fields = some (.bool spec.isReadOnly) := by
    simp [fields]
  have hcomment : Value.field? "comment" spec.fields = some (.ofOption .text spec.comment) := by
    simp [fields]
  have hallowed : visibilityCheck (.text spec.visibility) = .ok spec.visibility := by
    rw [visibilityCheck, if_pos h]
  rw [document, check, Checked.record, Checked.field_of_lookup hname (Checked.text_text spec.name),
    Checked.field_of_lookup htype (Checked.optionalText_ofOption spec.type),
    Checked.field_of_lookup hvisibility hallowed,
    Checked.field_of_lookup hreadOnly (Checked.boolean_bool spec.isReadOnly),
    Checked.field_of_lookup hcomment (Checked.optionalText_ofOption spec.comment)]
  rfl

end AttributeSpec

namespace ClassSpec

def fields (spec : ClassSpec) : List (Value × Value) :=
  [(.text "name", .text spec.name), (.text "package", .text spec.package),
    (.text "stereotypes", .ofTexts spec.stereotypes), (.text "comment", .ofOption .text spec.comment),
    (.text "attributes", .list (spec.attributes.map AttributeSpec.document))]

def document (spec : ClassSpec) : Value := .map spec.fields

theorem check_document {spec : ClassSpec}
    (h : ∀ a ∈ spec.attributes, a.visibility ∈ visibilities) : check spec.document = .ok spec := by
  have hname : Value.field? "name" spec.fields = some (.text spec.name) := by simp [fields]
  have hpackage : Value.field? "package" spec.fields = some (.text spec.package) := by simp [fields]
  have hstereotypes : Value.field? "stereotypes" spec.fields = some (.ofTexts spec.stereotypes) := by
    simp [fields]
  have hcomment : Value.field? "comment" spec.fields = some (.ofOption .text spec.comment) := by
    simp [fields]
  have hattributes : Value.field? "attributes" spec.fields =
      some (.list (spec.attributes.map AttributeSpec.document)) := by simp [fields]
  have hnames : stereotypeNamesCheck (.ofTexts spec.stereotypes) = .ok spec.stereotypes :=
    Checked.items_map (fun name _ => Checked.text_text name) 0
  have haccepted : Checked.list AttributeSpec.check
      (.list (spec.attributes.map AttributeSpec.document)) = .ok spec.attributes :=
    Checked.items_map (fun a ha => AttributeSpec.check_document (h a ha)) 0
  rw [document, check, Checked.record, Checked.field_of_lookup hname (Checked.text_text spec.name),
    Checked.field_of_lookup hpackage (Checked.text_text spec.package),
    Checked.field_of_lookup hstereotypes hnames,
    Checked.field_of_lookup hcomment (Checked.optionalText_ofOption spec.comment),
    Checked.field_of_lookup hattributes haccepted]
  rfl

end ClassSpec

namespace ModelSpec

def fields (spec : ModelSpec) : List (Value × Value) :=
  [(.text "name", .text spec.name),
    (.text "classes", .list (spec.classes.map ClassSpec.document))]

def document (spec : ModelSpec) : Value := .map spec.fields

theorem check_document {spec : ModelSpec}
    (h : ∀ c ∈ spec.classes, ∀ a ∈ c.attributes, a.visibility ∈ visibilities) :
    check spec.document = .ok spec := by
  have hname : Value.field? "name" spec.fields = some (.text spec.name) := by simp [fields]
  have hclasses : Value.field? "classes" spec.fields =
      some (.list (spec.classes.map ClassSpec.document)) := by simp [fields]
  have haccepted : Checked.list ClassSpec.check (.list (spec.classes.map ClassSpec.document)) =
      .ok spec.classes :=
    Checked.items_map (fun c hc => ClassSpec.check_document (h c hc)) 0
  rw [document, check, Checked.record, Checked.field_of_lookup hname (Checked.text_text spec.name),
    Checked.field_of_lookup hclasses haccepted]
  rfl

end ModelSpec

/-! Models as documents. -/

/-- What a document names a type by: the qualified name of its class, or the name of a plain type. -/
def typePath (m : Model) : DataType → String
  | .plain name _ => name
  | .object name _ target => (target.bind (m.classes[·]?)).elim name Class.qualifiedName

def Attribute.spec (m : Model) (a : Attribute) : AttributeSpec where
  name := a.name
  type := a.type.map m.typePath
  visibility := a.visibility
  isReadOnly := a.isReadOnly
  comment := a.comment

def Class.spec (m : Model) (c : Class) : ClassSpec where
  name := c.name
  package := c.packageName
  stereotypes := c.stereotypeNames
  comment := c.comment
  attributes := c.attributes.map (·.spec m)

def spec (m : Model) : ModelSpec where
  name := m.name
  classes := m.classes.map (·.spec m)

def document (m : Model) : Value := m.spec.document

/-- The types that a document can name in a model: its own classes, and plain types that are not taken
for one of them. -/
inductive HasType (m : Model) : DataType → Prop
  | plain {name : String} : name ≠ "" → m.findClass? name = none → HasType m (.plain name none)
  | object {i : Nat} {c : Class} : m.classes[i]? = some c → HasType m (.object c.name none (some i))

/-- The models that their documents say everything about. -/
structure Writable (m : Model) : Prop where
  valid : m.problems = []
  delimiter : ∀ c ∈ m.classes, c.delimiter = m.delimiter
  /-- Some character of the delimiter stands in no identifier at all. -/
  foreign : ∃ ch ∈ m.delimiter.toList, ∀ s, Text.isIdentifier s = true → ch ∉ s.toList
  stereotypes : ∀ c ∈ m.classes, ∀ s ∈ c.stereotypes, s.comment = none
  visibility : ∀ c ∈ m.classes, ∀ a ∈ c.attributes, a.visibility ∈ visibilities
  type : ∀ c ∈ m.classes, ∀ a ∈ c.attributes, ∀ t ∈ a.type, m.HasType t

/-! Packages. -/

theorem packageSegments_join {delimiter : String} {ch : Char} (hch : ch ∈ delimiter.toList)
    {segments : List String} (hforeign : ∀ s ∈ segments, ch ∉ s.toList)
    (hsegments : ∀ s ∈ segments, s ≠ "") :
    packageSegments delimiter (Text.join delimiter segments) = segments := by
  have hkept : segments.filter (· ≠ "") = segments :=
    List.filter_eq_self.mpr fun s hs => decide_eq_true (hsegments s hs)
  rw [packageSegments]
  cases segments with
  | nil =>
      have hne : delimiter ≠ "" := by
        rintro rfl
        cases hch
      rw [show Text.join delimiter [] = "" from rfl, Text.split_empty hne]
      rfl
  | cons segment others => rw [Text.split_join hch (List.cons_ne_nil _ _) hforeign, hkept]

/-! Classes by their names. -/

/-- A class as it is before the types of its attributes are resolved. -/
def Class.bare (c : Class) : Class := { c with attributes := [] }

def bare (m : Model) : Model := { m with classes := m.classes.map Class.bare }

theorem findClass?_bare (m : Model) (name : String) : m.bare.findClass? name = m.findClass? name := by
  have hqualified : (fun c : Class => decide (c.qualifiedName = name)) ∘ Class.bare =
      fun c : Class => decide (c.qualifiedName = name) := rfl
  have hsimple : (fun c : Class => decide (c.name = name)) ∘ Class.bare =
      fun c : Class => decide (c.name = name) := rfl
  simp only [findClass?, bare, List.findIdx?_map, List.filter_map, List.length_map, hqualified,
    hsimple]

theorem findClass?_qualifiedName {m : Model} (h : m.problems = []) {i : Nat} {c : Class}
    (hc : m.classes[i]? = some c) : m.findClass? c.qualifiedName = some i := by
  obtain ⟨hi, rfl⟩ := List.getElem?_eq_some_iff.mp hc
  have hfound : m.classes.findIdx? (·.qualifiedName = m.classes[i].qualifiedName) = some i := by
    rw [List.findIdx?_eq_some_iff_getElem]
    refine ⟨hi, decide_eq_true rfl, fun j hj => ?_⟩
    have hne := List.pairwise_iff_getElem.mp (qualifiedNames_nodup h) j i (by simp; omega)
      (by simpa using hi) hj
    simpa using hne
  rw [findClass?, hfound]

theorem Class.qualifiedName_ne_empty {c : Class} (h : c.problems = []) : c.qualifiedName ≠ "" := by
  have hname := Text.ne_empty_of_isIdentifier (isIdentifier_name h)
  rw [qualifiedName]
  split
  · exact hname
  · intro hempty
    exact hname (String.append_eq_empty_iff.mp hempty).2

/-! Reading the document of a model. -/

theorem resolveType_of_ne_empty (m : Model) {name : String} (h : name ≠ "") :
    m.resolveType (some name) =
      match m.findClass? name with
      | some i => some (.object (((m.classes[i]?).map Class.name).getD name) none (some i))
      | none => some (.plain name none) := by
  rw [resolveType.eq_def]
  split
  · next hnone => cases hnone
  · next hempty => exact absurd (Option.some.inj hempty) h
  · next _ heq =>
    cases heq
    rfl

section

variable {m : Model}

theorem resolveType_typePath (h : m.problems = []) {t : DataType} (ht : m.HasType t) :
    m.bare.resolveType (some (m.typePath t)) = some t := by
  cases ht with
  | plain hne hunknown =>
      rw [typePath, resolveType_of_ne_empty _ hne, findClass?_bare, hunknown]
  | @object i c hc =>
      have hpath : m.typePath (.object c.name none (some i)) = c.qualifiedName := by
        simp [typePath, hc]
      have hne := Class.qualifiedName_ne_empty (problems_eq_nil_of_mem h (List.mem_of_getElem? hc))
      have hbare : m.bare.classes[i]? = some c.bare := by simp [bare, hc]
      rw [hpath, resolveType_of_ne_empty _ hne, findClass?_bare, findClass?_qualifiedName h hc]
      simp only [hbare]
      rfl

theorem Attribute.resolve_spec (h : m.problems = []) {a : Attribute}
    (ha : ∀ t ∈ a.type, m.HasType t) : (a.spec m).resolve m.bare = a := by
  obtain ⟨name, comment, type, visibility, isReadOnly⟩ := a
  have htype : m.bare.resolveType (type.map m.typePath) = type := by
    cases type with
    | none => rfl
    | some t => exact resolveType_typePath h (ha t rfl)
  simp only [AttributeSpec.resolve, spec, htype]

theorem Class.outline_spec (hm : m.Writable) {c : Class} (hc : c ∈ m.classes) :
    (c.spec m).outline m.delimiter = c.bare := by
  obtain ⟨ch, hch, hforeign⟩ := hm.foreign
  have hproblems := problems_eq_nil_of_mem hm.valid hc
  have hpackage : packageSegments m.delimiter c.packageName = c.package := by
    rw [packageName, hm.delimiter c hc]
    exact packageSegments_join hch (fun s hs => hforeign s (isIdentifier_segment hproblems hs))
      fun s hs => Text.ne_empty_of_isIdentifier (isIdentifier_segment hproblems hs)
  have hstereotypes : c.stereotypeNames.map (fun name => ({ name } : Stereotype)) = c.stereotypes := by
    rw [stereotypeNames, List.map_map]
    refine (List.map_congr_left fun s hs => ?_).trans (List.map_id _)
    obtain ⟨name, comment⟩ := s
    obtain rfl : comment = none := hm.stereotypes c hc _ hs
    rfl
  rw [ClassSpec.outline, bare]
  simp only [spec, hpackage, hstereotypes, hm.delimiter c hc]

theorem ofSpec_spec (hm : m.Writable) : ofSpec m.spec m.delimiter = m := by
  have hbare : m.spec.classes.map (·.outline m.delimiter) = m.classes.map Class.bare := by
    rw [spec, List.map_map]
    exact List.map_congr_left fun c hc => Class.outline_spec hm hc
  have hclasses : m.spec.classes.map (fun c =>
      { c.outline m.delimiter with attributes := c.attributes.map (·.resolve m.bare) }) =
        m.classes := by
    rw [spec, List.map_map]
    refine (List.map_congr_left fun c hc => ?_).trans (List.map_id _)
    have hattributes : (c.spec m).attributes.map (·.resolve m.bare) = c.attributes := by
      rw [Class.spec, List.map_map]
      refine (List.map_congr_left fun a ha => ?_).trans (List.map_id _)
      exact Attribute.resolve_spec hm.valid (hm.type c hc a ha)
    simp only [Function.comp_apply, Class.outline_spec hm hc, hattributes]
    rfl
  rw [ofSpec, hbare]
  exact congrArg (fun classes => { m with classes }) hclasses

end

theorem ofValue_document {m : Model} (hm : m.Writable) : ofValue m.document m.delimiter = .ok m := by
  obtain ⟨ch, hch, _⟩ := hm.foreign
  have hdelimiter : m.delimiter ≠ "" := by
    intro hempty
    rw [hempty] at hch
    cases hch
  have hspec : ModelSpec.check m.document = .ok m.spec := by
    refine ModelSpec.check_document fun c' hc' a' ha' => ?_
    obtain ⟨c, hc, rfl⟩ := List.mem_map.mp hc'
    obtain ⟨a, ha, rfl⟩ := List.mem_map.mp ha'
    exact hm.visibility c hc a ha
  have hmap : m.document = .map m.spec.fields := rfl
  rw [hmap] at hspec ⊢
  simp only [ofValue, hspec]
  rw [if_neg fun h => hdelimiter h.1, ofSpec_spec hm]

def order : Class where
  name := "Order"
  package := ["shop", "orders"]
  stereotypes := [{ name := "E" }, { name := "T" }]
  attributes :=
    [{ name := "customer", type := some (.object "Customer" none (some 1)) },
      { name := "note", type := some (.plain "str" none), visibility := "private" }]

def customer : Class where
  name := "Customer"
  comment := some "buys"
  package := ["shop"]
  attributes :=
    [{ name := "last", type := some (.object "Order" none (some 0)) },
      { name := "friend", type := some (.object "Customer" none (some 1)), isReadOnly := true },
      { name := "extra" }]

def customers : Model where
  classes := [order, customer]

end Model

end Codegen
