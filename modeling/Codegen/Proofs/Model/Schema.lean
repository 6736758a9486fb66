import Codegen.Model.Spec
import Codegen.Proofs.Schema.Check
import Codegen.Proofs.Text.Halves

/-! What a document has to say for its schema to accept it, and what it then writes. -/

namespace Codegen.Model

open Checked Value

/-! Values of fields. -/

inductive WritesVisibility : Value → String → Prop
  | text {s : String} : s ∈ visibilities → WritesVisibility (.text s) s

/-- A list of names, or a single name in its place. -/
inductive WritesNames : Value → List String → Prop
  | single (s : String) : WritesNames (.text s) [s]
  | list {v : Value} {names : List String} : WritesList WritesText v names → WritesNames v names

theorem judges_visibilityCheck : Judges visibilityCheck WritesVisibility := by
  refine ⟨fun v s => ?_, fun v => ?_⟩
  · constructor
    · intro h
      cases v with
      | text s' =>
          rw [visibilityCheck] at h
          split_ifs at h with hmem
          · cases h
            exact .text hmem
          · cases h
      | _ => cases h
    · rintro ⟨hmem⟩
      exact if_pos hmem
  · cases v with
    | text s =>
        rw [visibilityCheck]
        split
        · exact .ok s
        · exact .refuse _ _
    | _ => exact .refuse _ _

theorem stereotypeNamesCheck_of_ne {v : Value} (htext : ∀ s, v ≠ .text s) (hbytes : ∀ bs, v ≠ .bytes bs) :
    stereotypeNamesCheck v = Checked.list Checked.text v := by
  cases v <;> first | rfl | exact absurd rfl (htext _) | exact absurd rfl (hbytes _)

/-- Bytes are never a list of names, also where halves of pairs make them be read as the one item
of such a list. -/
theorem stereotypeNamesCheck_bytes_ne_ok (bs : List UInt8) (names : List String) :
    stereotypeNamesCheck (.bytes bs) ≠ .ok names := by
  intro h
  rw [stereotypeNamesCheck] at h
  split at h
  · next hhalved =>
    obtain ⟨read, hread⟩ : ∃ s, WritesText (.bytes bs) s := by
      cases (items_ok_iff 0).mp h with
      | cons hread _ => exact ⟨_, (judges_text.accepts _ _).mp hread⟩
    cases hread with
    | bytes hread =>
        rw [Text.isHalved_of_fromUTF8? hread] at hhalved
        cases hhalved
  · cases h

theorem judges_stereotypeNamesCheck : Judges stereotypeNamesCheck WritesNames := by
  refine ⟨fun v names => ?_, fun v => ?_⟩
  · constructor
    · intro h
      cases v with
      | text s =>
          cases h
          exact .single s
      | bytes bs => exact absurd h (stereotypeNamesCheck_bytes_ne_ok bs names)
      | _ => exact .list (((judges_list judges_text).accepts _ _).mp h)
    · intro h
      cases h with
      | single => rfl
      | list h =>
          rw [stereotypeNamesCheck_of_ne]
          · exact ((judges_list judges_text).accepts _ _).mpr h
          · rintro s rfl
            obtain ⟨_, ⟨⟩, _⟩ := h
          · rintro bs rfl
            obtain ⟨_, ⟨⟩, _⟩ := h
  · cases v with
    | text s => exact .ok [s]
    | bytes bs =>
        rw [stereotypeNamesCheck]
        split
        · exact (judges_list judges_text).isReasoned _
        · exact .refuse _ _
    | _ =>
        rw [stereotypeNamesCheck_of_ne (by simp) (by simp)]
        exact (judges_list judges_text).isReasoned _

/-! Attributes, classes and models. -/

/-- What the fields of an attribute entry say. -/
structure AttributeSpec.Fields (fields : List (Value × Value)) (spec : AttributeSpec) : Prop where
  name : WritesField "name" WritesText none fields spec.name
  type : WritesField "type" WritesOptionalText (some none) fields spec.type
  visibility : WritesField "visibility" WritesVisibility (some "public") fields spec.visibility
  isReadOnly : WritesField "read_only" WritesBoolean (some false) fields spec.isReadOnly
  comment : WritesField "comment" WritesOptionalText (some none) fields spec.comment

def AttributeSpec.Written : Value → AttributeSpec → Prop := WritesRecord Fields

theorem AttributeSpec.judges_check : Judges check Written := by
  have hname := (judges_requiredField "name" judges_text).map mk
  have htype := hname.apply (judges_optionalField "type" judges_optionalText none)
  have hvisibility := htype.apply (judges_optionalField "visibility" judges_visibilityCheck "public")
  have hreadOnly := hvisibility.apply (judges_optionalField "read_only" judges_boolean false)
  have hfields := hreadOnly.apply (judges_optionalField "comment" judges_optionalText none)
  refine judges_record (hfields.congr fun fields spec => ?_) _
  constructor
  · rintro ⟨hname, htype, hvisibility, hreadOnly, hcomment⟩
    exact ⟨_, _, ⟨_, _, ⟨_, _, ⟨_, _, ⟨_, hname, rfl⟩, htype, rfl⟩, hvisibility, rfl⟩, hreadOnly, rfl⟩,
      hcomment, rfl⟩
  · rintro ⟨_, _, ⟨_, _, ⟨_, _, ⟨_, _, ⟨_, hname, rfl⟩, htype, rfl⟩, hvisibility, rfl⟩, hreadOnly, rfl⟩,
      hcomment, rfl⟩
    exact ⟨hname, htype, hvisibility, hreadOnly, hcomment⟩

/-- What the fields of a class entry say. -/
structure ClassSpec.Fields (fields : List (Value × Value)) (spec : ClassSpec) : Prop where
  name : WritesField "name" WritesText none fields spec.name
  package : WritesField "package" WritesText (some "") fields spec.package
  stereotypes : WritesField "stereotypes" WritesNames (some []) fields spec.stereotypes
  comment : WritesField "comment" WritesOptionalText (some none) fields spec.comment
  attributes :
    WritesField "attributes" (WritesList AttributeSpec.Written) (some []) fields spec.attributes

def ClassSpec.Written : Value → ClassSpec → Prop := WritesRecord Fields

theorem ClassSpec.judges_check : Judges check Written := by
  have hname := (judges_requiredField "name" judges_text).map mk
  have hpackage := hname.apply (judges_optionalField "package" judges_text "")
  have hstereotypes := hpackage.apply (judges_optionalField "stereotypes" judges_stereotypeNamesCheck [])
  have hcomment := hstereotypes.apply (judges_optionalField "comment" judges_optionalText none)
  have hfields := hcomment.apply
    (judges_optionalField "attributes" (judges_list AttributeSpec.judges_check) [])
  refine judges_record (hfields.congr fun fields spec => ?_) _
  constructor
  · rintro ⟨hname, hpackage, hstereotypes, hcomment, hattributes⟩
    exact ⟨_, _, ⟨_, _, ⟨_, _, ⟨_, _, ⟨_, hname, rfl⟩, hpackage, rfl⟩, hstereotypes, rfl⟩, hcomment, rfl⟩,
      hattributes, rfl⟩
  · rintro ⟨_, _, ⟨_, _, ⟨_, _, ⟨_, _, ⟨_, hname, rfl⟩, hpackage, rfl⟩, hstereotypes, rfl⟩, hcomment,
      rfl⟩, hattributes, rfl⟩
    exact ⟨hname, hpackage, hstereotypes, hcomment, hattributes⟩

/-- What the fields of a document say. -/
structure ModelSpec.Fields (fields : List (Value × Value)) (spec : ModelSpec) : Prop where
  name : WritesField "name" WritesText (some "model") fields spec.name
  classes : WritesField "classes" (WritesList ClassSpec.Written) (some []) fields spec.classes

theorem ModelSpec.judges_check : Judges check (WritesRecord Fields) := by
  have hname := (judges_optionalField "name" judges_text "model").map mk
  have hfields := hname.apply (judges_optionalField "classes" (judges_list ClassSpec.judges_check) [])
  refine judges_record (hfields.congr fun fields spec => ?_) _
  constructor
  · rintro ⟨hname, hclasses⟩
    exact ⟨_, _, ⟨_, hname, rfl⟩, hclasses, rfl⟩
  · rintro ⟨_, _, ⟨_, hname, rfl⟩, hclasses, rfl⟩
    exact ⟨hname, hclasses⟩

end Codegen.Model
