import Codegen.Proofs.Model.Resolution
import Codegen.Proofs.Model.Schema

/-! Which documents make a model, what is in it, and what is reported of the others: what is wrong with
the document itself and, entry by entry, what is wrong with its classes. -/

namespace Codegen.Model

open Checked Value

/-- What a document writes is what its fields say; an empty one writes an empty model. -/
inductive ModelSpec.Written : Value → ModelSpec → Prop
  | empty : Written .null ⟨"model", []⟩
  | fields {fields : List (Value × Value)} {spec : ModelSpec} :
      Fields fields spec → Written (.map fields) spec

def classEntries : Value → List Value
  | .map fields => elements "classes" fields
  | _ => []

def attributeEntries : Value → List Value
  | .map fields => elements "attributes" fields
  | _ => []

/-- An entry writes an attribute, whose type name stands for what it means in the model. -/
def Attribute.Written (m : Model) (v : Value) (a : Attribute) : Prop :=
  ∃ spec, AttributeSpec.Written v spec ∧ a = spec.resolve m

/-- An entry writes a class, and its attribute entries the attributes one by one. -/
structure Class.Written (m : Model) (v : Value) (c : Class) : Prop where
  entry : ∃ spec, ClassSpec.Written v spec ∧
    c = { spec.outline m.delimiter with attributes := spec.attributes.map (·.resolve m) }
  attributes : List.Forall₂ (Attribute.Written m) (attributeEntries v) c.attributes

/-- What is wrong with a document apart from its classes. -/
def documentProblems : Value → List SchemaProblem
  | .null => []
  | .map fields => (field "name" Checked.text (.ok "model") fields).problems ++ listFault "classes" fields
  | v => [⟨[], .notRecord "ModelDocument", v⟩]

/-- What is wrong with the class entries, each on its own, with the number of the entry. -/
def entryProblems (data : Value) : List SchemaProblem :=
  (classEntries data).zipIdx.flatMap fun (v, i) =>
    (ClassSpec.check v).problems.map (SchemaProblem.inItem "classes" i)

/-! The schema of documents. -/

def filled : Value → Value
  | .null => .map []
  | v => v

theorem ModelSpec.check_filled_ok_iff {data : Value} {spec : ModelSpec} :
    check (filled data) = .ok spec ↔ Written data spec := by
  rw [judges_check.accepts]
  constructor
  · rintro ⟨fields, hfilled, hfields⟩
    cases data with
    | null =>
        cases hfilled
        obtain ⟨name, classes⟩ := spec
        cases hfields.name.default_eq rfl
        cases hfields.classes.default_eq rfl
        exact .empty
    | map fields' =>
        cases hfilled
        exact .fields hfields
    | _ => cases hfilled
  · intro h
    cases h with
    | empty => exact ⟨[], rfl, .absent rfl rfl, .absent rfl rfl⟩
    | fields hfields => exact ⟨_, rfl, hfields⟩

theorem ModelSpec.problems_check_filled (data : Value) :
    (check (filled data)).problems = documentProblems data ++ entryProblems data := by
  have hfields : ∀ fields, (check (.map fields)).problems =
      documentProblems (.map fields) ++ entryProblems (.map fields) := by
    intro fields
    rw [check, Checked.record, problems_apply, problems_map, problems_listField, ← List.append_assoc]
    rfl
  cases data with
  | null => exact hfields []
  | map fields => exact hfields fields
  | _ => rfl

theorem ModelSpec.exists_written_iff {data : Value} :
    (∃ spec, Written data spec) ↔ documentProblems data ++ entryProblems data = [] := by
  rw [← problems_check_filled, judges_check.problems_eq_nil_iff]
  simp only [← judges_check.accepts, check_filled_ok_iff]

theorem entryProblems_eq_nil_iff {data : Value} :
    entryProblems data = [] ↔ ∀ v ∈ classEntries data, ∃ spec, ClassSpec.Written v spec := by
  rw [entryProblems, List.flatMap_eq_nil_iff]
  simp only [List.map_eq_nil_iff, ClassSpec.judges_check.problems_eq_nil_iff]
  constructor
  · intro h v hv
    obtain ⟨i, hi⟩ := List.mem_iff_getElem?.mp hv
    exact h (v, i) (List.mk_mem_zipIdx_iff_getElem?.mpr hi)
  · rintro h ⟨v, i⟩ hmem
    exact h v (List.mem_of_getElem? (List.mk_mem_zipIdx_iff_getElem?.mp hmem))

/-! Models. -/

section

variable {data : Value} {delimiter : String}

theorem ofValue_of_ne_empty (hdelimiter : delimiter ≠ "") (data : Value) :
    ofValue data delimiter = match ModelSpec.check (filled data) with
      | .error problems => .error (.generation (.malformedModel (problems.map SchemaProblem.text)))
      | .ok spec => .ok (ofSpec spec delimiter) := by
  cases hchecked : ModelSpec.check (filled data) <;>
    cases data <;> simp only [filled] at hchecked <;> simp [ofValue, hchecked, hdelimiter]

theorem ofValue_ok_iff (hdelimiter : delimiter ≠ "") {m : Model} :
    ofValue data delimiter = .ok m ↔ ∃ spec, ModelSpec.Written data spec ∧ m = ofSpec spec delimiter := by
  rw [ofValue_of_ne_empty hdelimiter]
  simp only [← ModelSpec.check_filled_ok_iff]
  cases ModelSpec.check (filled data) with
  | error problems => simp
  | ok spec => simp [eq_comm]

theorem ofValue_of_problems (hdelimiter : delimiter ≠ "")
    (h : documentProblems data ++ entryProblems data ≠ []) :
    ofValue data delimiter = .error (.generation (.malformedModel
      ((documentProblems data ++ entryProblems data).map SchemaProblem.text))) := by
  rw [← ModelSpec.problems_check_filled] at h ⊢
  rw [ofValue_of_ne_empty hdelimiter]
  cases hchecked : ModelSpec.check (filled data) with
  | error problems => rfl
  | ok spec => exact absurd (by rw [hchecked, problems_ok]) h

end

theorem ModelSpec.Written.classes {data : Value} {spec : ModelSpec} (h : Written data spec) :
    List.Forall₂ ClassSpec.Written (classEntries data) spec.classes := by
  cases h with
  | empty => exact .nil
  | fields hfields => exact hfields.classes.forall₂_elements

theorem ClassSpec.Written.attributes {v : Value} {spec : ClassSpec} (h : Written v spec) :
    List.Forall₂ AttributeSpec.Written (attributeEntries v) spec.attributes := by
  obtain ⟨fields, rfl, hfields⟩ := h
  exact hfields.attributes.forall₂_elements

theorem ModelSpec.Written.forall₂_classes {data : Value} {spec : ModelSpec} (h : Written data spec)
    (delimiter : String) :
    List.Forall₂ (Class.Written (ofSpec spec delimiter)) (classEntries data)
      (ofSpec spec delimiter).classes := by
  conv => arg 3; rw [classes_ofSpec]
  refine List.forall₂_map_right_iff.mpr (h.classes.imp fun v c hc => ⟨⟨c, hc, rfl⟩, ?_⟩)
  exact List.forall₂_map_right_iff.mpr (hc.attributes.imp fun w a ha => ⟨a, ha, rfl⟩)

theorem entryProblems_append {fields other : List (Value × Value)} {vs more : List Value}
    (hvs : field? "classes" fields = some (.list vs))
    (hmore : field? "classes" other = some (.list (vs ++ more)))
    (hgood : ∀ v ∈ more, ∃ spec, ClassSpec.Written v spec) :
    entryProblems (.map other) = entryProblems (.map fields) := by
  have hnone : ∀ i, ((more.zipIdx i).flatMap fun (v, j) =>
      (ClassSpec.check v).problems.map (SchemaProblem.inItem "classes" j)) = [] := by
    intro i
    rw [List.flatMap_eq_nil_iff]
    rintro ⟨v, j⟩ hmem
    rw [List.map_eq_nil_iff, ClassSpec.judges_check.problems_eq_nil_iff]
    exact hgood v (List.fst_mem_of_mem_zipIdx hmem)
  have hentries : classEntries (.map fields) = vs := by
    rw [classEntries, elements, hvs]
    rfl
  have hothers : classEntries (.map other) = vs ++ more := by
    rw [classEntries, elements, hmore]
    rfl
  rw [entryProblems, entryProblems, hentries, hothers, List.zipIdx_append, List.flatMap_append, hnone,
    List.append_nil]

theorem documentProblems_append {fields other : List (Value × Value)} {vs ws : List Value}
    (hname : field? "name" other = field? "name" fields)
    (hvs : field? "classes" fields = some (.list vs)) (hws : field? "classes" other = some (.list ws)) :
    documentProblems (.map other) = documentProblems (.map fields) := by
  simp only [documentProblems, field, listFault, hname, hvs, hws]
  rfl

/-- With a delimiter, a document makes a model exactly when its fields and those of all its entries are
acceptable. The model then has a class for each class entry and an attribute for each attribute entry,
in their order. Otherwise the problems of the document itself are reported and after them those of each
class entry, as they are for the entry on its own; entries without problems add none. -/
theorem ofValue_composed {delimiter : String} (hdelimiter : delimiter ≠ "") (data : Value) :
    (∀ m, ofValue data delimiter = .ok m ↔
      ∃ spec, ModelSpec.Written data spec ∧ m = ofSpec spec delimiter) ∧
    ((∃ m, ofValue data delimiter = .ok m) ↔
      documentProblems data = [] ∧ ∀ v ∈ classEntries data, ∃ spec, ClassSpec.Written v spec) ∧
    (∀ m, ofValue data delimiter = .ok m →
      List.Forall₂ (Class.Written m) (classEntries data) m.classes) ∧
    ((∀ m, ofValue data delimiter ≠ .ok m) →
      ofValue data delimiter = .error (.generation (.malformedModel
        ((documentProblems data ++ entryProblems data).map SchemaProblem.text)))) ∧
    ∀ fields other vs more, data = .map fields → field? "name" other = field? "name" fields →
      field? "classes" fields = some (.list vs) → field? "classes" other = some (.list (vs ++ more)) →
      (∀ v ∈ more, ∃ spec, ClassSpec.Written v spec) →
      ∀ texts, ofValue (.map other) delimiter = .error (.generation (.malformedModel texts)) ↔
        ofValue data delimiter = .error (.generation (.malformedModel texts)) := by
  have haccepted : ∀ data, (∃ m, ofValue data delimiter = .ok m) ↔
      documentProblems data ++ entryProblems data = [] := by
    intro data
    simp only [ofValue_ok_iff hdelimiter, ← ModelSpec.exists_written_iff]
    exact ⟨fun ⟨_, spec, hspec, _⟩ => ⟨spec, hspec⟩, fun ⟨spec, hspec⟩ => ⟨_, spec, hspec, rfl⟩⟩
  refine ⟨fun m => ofValue_ok_iff hdelimiter, ?_, fun m hm => ?_, fun hnone => ?_, ?_⟩
  · rw [haccepted, List.append_eq_nil_iff, entryProblems_eq_nil_iff]
  · obtain ⟨spec, hspec, rfl⟩ := (ofValue_ok_iff hdelimiter).mp hm
    exact hspec.forall₂_classes delimiter
  · refine ofValue_of_problems hdelimiter fun hempty => ?_
    obtain ⟨m, hm⟩ := (haccepted data).mpr hempty
    exact hnone m hm
  · rintro fields other vs more rfl hname hvs hmore hgood texts
    have hsame : documentProblems (.map other) ++ entryProblems (.map other) =
        documentProblems (.map fields) ++ entryProblems (.map fields) := by
      rw [documentProblems_append hname hvs hmore, entryProblems_append hvs hmore hgood]
    by_cases hempty : documentProblems (.map fields) ++ entryProblems (.map fields) = []
    · obtain ⟨m, hm⟩ := (haccepted _).mpr hempty
      obtain ⟨n, hn⟩ := (haccepted _).mpr (hsame.trans hempty)
      rw [hm, hn]
      exact ⟨nofun, nofun⟩
    · rw [ofValue_of_problems hdelimiter hempty, ofValue_of_problems hdelimiter (hsame ▸ hempty), hsame]

/-! A class without a name and a class that is none, with a good one between them. -/

def customerEntry : Value := .map [(.text "name", .text "Customer"),
  (.text "attributes", .list [.map [(.text "name", .text "id")]])]

def entriesDocument (entries : List Value) : List (Value × Value) := [(.text "classes", .list entries)]

def mixedEntries : List Value := [.map [], customerEntry, .int 7]

theorem ofValue_composed_mixedEntries :
    let texts := ["classes.0.name: Field required",
      "classes.2: Input should be a valid dictionary or instance of ClassSpec"]
    "::" ≠ "" ∧
      ofValue (.map (entriesDocument mixedEntries)) "::" = .error (.generation (.malformedModel texts)) ∧
      ofValue (.map (entriesDocument (mixedEntries ++ [customerEntry]))) "::" =
        .error (.generation (.malformedModel texts)) ∧
      ∃ m c, ofValue (.map (entriesDocument [customerEntry])) "::" = .ok m ∧ m.classes = [c] ∧
        c.attributes.length = 1 := by
  intro texts
  have hdelimiter : "::" ≠ "" := by decide
  have hfields : ∀ vs, field? "classes" (entriesDocument vs) = some (.list vs) := by
    intro vs
    simp [entriesDocument]
  have hname : ∀ vs, field? "name" (entriesDocument vs) = none := by
    intro vs
    simp [entriesDocument, field?, lookup?, agrees_text]
  have hcustomer : ∃ spec, ClassSpec.Written customerEntry spec :=
    (ClassSpec.judges_check.problems_eq_nil_iff _).mp (by with_unfolding_all rfl)
  obtain ⟨-, haccepted, -, hrefused, hmore⟩ :=
    ofValue_composed hdelimiter (.map (entriesDocument mixedEntries))
  have hfails : ofValue (.map (entriesDocument mixedEntries)) "::" =
      .error (.generation (.malformedModel texts)) := by
    refine (hrefused fun m hm => ?_).trans (by with_unfolding_all rfl)
    obtain ⟨spec, fields, hrecord, -⟩ := (haccepted.mp ⟨m, hm⟩).2 (.int 7) (by
      simp [classEntries, elements, hfields, mixedEntries, elements?])
    cases hrecord
  refine ⟨hdelimiter, hfails, ?_, ?_⟩
  · refine (hmore _ _ mixedEntries [customerEntry] rfl ((hname _).trans (hname _).symm) (hfields _)
      (hfields _) ?_ texts).mpr hfails
    rintro v hv
    rw [List.mem_singleton.mp hv]
    exact hcustomer
  · obtain ⟨-, haccepted, hclasses, -⟩ :=
      ofValue_composed hdelimiter (.map (entriesDocument [customerEntry]))
    obtain ⟨m, hm⟩ := haccepted.mpr ⟨by with_unfolding_all rfl, fun v hv => by
      rw [classEntries, elements, hfields] at hv
      rw [List.mem_singleton.mp hv]
      exact hcustomer⟩
    have hwritten := hclasses m hm
    rw [classEntries, elements, hfields] at hwritten
    obtain ⟨c, hone, hc⟩ : ∃ c, m.classes = [c] ∧ Class.Written m customerEntry c := by
      generalize m.classes = classes at hwritten
      cases hwritten with
      | cons hc hrest =>
          cases hrest
          exact ⟨_, rfl, hc⟩
    refine ⟨m, c, hm, hone, ?_⟩
    rw [← hc.attributes.length_eq]
    with_unfolding_all rfl

/-- The problems of the class entries are not all that is reported: those of the name come before them. -/
theorem ofValue_name_and_entry :
    let data := Value.map [(.text "name", .int 5), (.text "classes", .list [.map []])]
    ¬ ((∃ m, ofValue data "::" = .ok m) ∨
      ofValue data "::" = .error (.generation (.malformedModel
        ((entryProblems data).map SchemaProblem.text)))) := by
  intro data
  have hreported : ofValue data "::" = .error (.generation (.malformedModel
      ["name: Input should be a valid string", "classes.0.name: Field required"])) := by
    with_unfolding_all rfl
  have hentries : (entryProblems data).map SchemaProblem.text = ["classes.0.name: Field required"] := by
    with_unfolding_all rfl
  rw [hreported, hentries]
  rintro (⟨m, ⟨⟩⟩ | hsame)
  simp [GenerationError.malformedModel] at hsame

end Codegen.Model
