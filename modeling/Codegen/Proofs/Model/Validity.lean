import Codegen.Model.Validity
import Codegen.Proofs.Text.Character
import Codegen.Proofs.Text.Splitting
import Mathlib.Data.List.Nodup

/-! What is known of a model that was validated. -/

namespace Codegen.Model

theorem mem_tally_iff {items : List String} {item : String} {times : Nat} :
    (item, times) ∈ tally items ↔ item ∈ items ∧ times = items.count item := by
  simp only [tally, List.mem_map, Prod.mk.injEq, List.mem_eraseDups]
  constructor
  · rintro ⟨other, hother, rfl, rfl⟩
    exact ⟨hother, rfl⟩
  · rintro ⟨hitem, rfl⟩
    exact ⟨item, hitem, rfl, rfl⟩

theorem problems_eq_nil_of_validate {levels : Log.Levels} {m : Model}
    (h : m.validate levels = .ok ()) : m.problems = [] := by
  by_contra hproblems
  rw [validate, if_pos hproblems] at h
  cases hlog : (m.problems.forM fun problem =>
      Log.modelLogger.say levels .error problem.message : Except Failure Unit) with
  | error failure =>
      rw [hlog] at h
      cases h
  | ok u =>
      rw [hlog] at h
      cases h

theorem qualifiedNames_nodup {m : Model} (h : m.problems = []) :
    (m.classes.map Class.qualifiedName).Nodup := by
  have hclasses : m.repeatedClasses = [] := (List.append_eq_nil_iff.mp h).1
  rw [List.nodup_iff_count_le_one]
  intro path
  by_cases hpath : path ∈ m.classes.map Class.qualifiedName
  · have htally := mem_tally_iff.mpr ⟨hpath, rfl⟩
    have hnone := List.filterMap_eq_nil_iff.mp hclasses _ htally
    by_contra hmore
    simp only [gt_iff_lt, Nat.lt_of_not_le hmore, if_true] at hnone
    cases hnone
  · rw [List.count_eq_zero_of_not_mem hpath]
    exact Nat.zero_le 1

/-! The names of a valid model. -/

theorem problems_eq_nil_of_mem {m : Model} (h : m.problems = []) {c : Class} (hc : c ∈ m.classes) :
    c.problems = [] :=
  List.flatMap_eq_nil_iff.mp (List.append_eq_nil_iff.mp h).2 c hc

namespace Class

variable {c : Class}

theorem isIdentifier_name (h : c.problems = []) : Text.isIdentifier c.name = true := by
  have hname : c.nameProblems = [] := by
    simp only [problems, List.append_eq_nil_iff] at h
    exact h.1.1.1
  by_contra hbad
  rw [nameProblems, if_neg hbad] at hname
  cases hname

theorem isIdentifier_segment (h : c.problems = []) {segment : String} (hsegment : segment ∈ c.package) :
    Text.isIdentifier segment = true := by
  have hpackage : c.packageProblems = [] := by
    simp only [problems, List.append_eq_nil_iff] at h
    exact h.1.1.2
  by_contra hbad
  have hmem : segment ∈ c.package.filter (!Text.isIdentifier ·) :=
    List.mem_filter.mpr ⟨hsegment, by simpa using hbad⟩
  exact List.ne_nil_of_mem hmem (List.map_eq_nil_iff.mp hpackage)

theorem isBlankText_stereotype (h : c.problems = []) {stereotype : String} (hmem : stereotype ∈ c.stereotypeNames) :
    Text.isBlankText stereotype = false := by
  have hstereotypes : c.stereotypeProblems = [] := by
    simp only [problems, List.append_eq_nil_iff] at h
    exact h.1.2
  by_contra hblank
  have hnone := List.filterMap_eq_nil_iff.mp hstereotypes _ (mem_tally_iff.mpr ⟨hmem, rfl⟩)
  dsimp only at hnone
  rw [if_pos (by simpa using hblank)] at hnone
  cases hnone

theorem split_packageDirectory (h : c.problems = []) (hnested : c.package ≠ []) :
    Text.split "/" c.packageDirectory = c.package :=
  Text.split_join (c := '/') (by decide) hnested fun _ hsegment =>
    Text.slash_not_mem_of_isIdentifier (isIdentifier_segment h hsegment)

theorem packageDirectory_eq_empty_iff (h : c.problems = []) :
    c.packageDirectory = "" ↔ c.inRootPackage = true := by
  rw [inRootPackage, List.isEmpty_iff]
  constructor
  · intro hempty
    by_contra hnested
    have hsplit := split_packageDirectory h hnested
    rw [hempty, Text.split_empty (by decide)] at hsplit
    have hsegment : "" ∈ c.package := hsplit ▸ List.mem_singleton_self ""
    exact Text.ne_empty_of_isIdentifier (isIdentifier_segment h hsegment) rfl
  · intro hroot
    rw [packageDirectory, hroot]
    decide

end Class

/-! Entities of a model. -/

theorem Entity.qualifiedName?_classifier {m : Model} {i : Nat} {c : Class}
    (h : m.classes[i]? = some c) : (classifier i).qualifiedName? m = some c.qualifiedName := by
  simp only [qualifiedName?, element?, h, Option.map_some]

theorem Entity.classifier_inj {m : Model} (hvalid : m.problems = []) {i j : Nat}
    (hi : i < m.classes.length) (hj : j < m.classes.length)
    (h : ((classifier i).qualifiedName? m).getD "" = ((classifier j).qualifiedName? m).getD "") :
    i = j := by
  rw [qualifiedName?_classifier (List.getElem?_eq_getElem hi),
    qualifiedName?_classifier (List.getElem?_eq_getElem hj), Option.getD_some, Option.getD_some] at h
  have hi_map : i < (m.classes.map Class.qualifiedName).length := by rwa [List.length_map]
  have hj_map : j < (m.classes.map Class.qualifiedName).length := by rwa [List.length_map]
  have hsame : (m.classes.map Class.qualifiedName)[i] = (m.classes.map Class.qualifiedName)[j] := by
    rw [List.getElem_map, List.getElem_map]
    exact h
  exact (qualifiedNames_nodup hvalid).getElem_inj_iff.mp hsame

end Codegen.Model
