import Codegen.Proofs.Model.Acceptance
import Codegen.Proofs.Text.Parting

/-! Packages have a normal form. What is left of a package path without its empty segments can be joined
and read again: leaving segments out makes no new delimiter, not even one that overlaps itself. -/

namespace Codegen.Model

open Value

/-! Segments of paths. -/

section

variable {delimiter : String}

theorem packageSegments_map_toList (delimiter path : String) :
    (packageSegments delimiter path).map String.toList =
      (Text.splitList delimiter.toList path.toList).filter (· ≠ []) := by
  have hkeep : ((fun piece : List Char => decide (piece ≠ [])) ∘ String.toList) =
      fun segment => decide (segment ≠ "") := by
    funext segment
    simp
  rw [packageSegments, Text.split, ← hkeep, ← List.filter_map, List.map_map]
  simp

theorem toList_ne_nil (hdelimiter : delimiter ≠ "") : delimiter.toList ≠ [] := by
  simpa using hdelimiter

theorem mem_packageSegments (hdelimiter : delimiter ≠ "") {path segment : String}
    (h : segment ∈ packageSegments delimiter path) :
    segment ≠ "" ∧ ¬ delimiter.toList <:+: segment.toList := by
  have hmem := List.mem_map_of_mem (f := String.toList) h
  rw [packageSegments_map_toList, List.mem_filter] at hmem
  obtain ⟨hpiece, hkept⟩ := hmem
  exact ⟨by simpa using hkept,
    (Text.parted_splitList (toList_ne_nil hdelimiter) path.toList).not_isInfix _ hpiece⟩

theorem packageSegments_join_packageSegments (hdelimiter : delimiter ≠ "") (path : String) :
    packageSegments delimiter (Text.join delimiter (packageSegments delimiter path)) =
      packageSegments delimiter path := by
  have hmark := toList_ne_nil hdelimiter
  refine List.map_injective_iff.mpr (fun _ _ => String.toList_inj.mp) ?_
  rw [packageSegments_map_toList, Text.join, String.toList_ofList, packageSegments_map_toList]
  rcases (Text.parted_splitList hmark path.toList).filter (· ≠ []) with hnone | hparted
  · have huncut : Text.cutList? delimiter.toList [] = none := by
      simp [Text.cutList?_eq_none_iff hmark, hmark]
    rw [hnone, Text.joinList, Text.splitList_of_uncut hmark huncut]
    rfl
  · rw [hparted.splitList_joinList hmark, List.filter_filter]
    simp

end

/-! Packages of classes. -/

/-- A class that a document with the delimiter makes of an entry with the package path. -/
inductive Class.ReadFrom (delimiter path : String) (c : Class) : Prop
  | intro {data : Value} {fields : List (Value × Value)} {m : Model} :
      ofValue data delimiter = .ok m → (.map fields, c) ∈ (classEntries data).zip m.classes →
      WritesField "package" WritesText (some "") fields path → ReadFrom delimiter path c

section

variable {delimiter path : String} {c : Class}

theorem Class.ReadFrom.package_eq (hdelimiter : delimiter ≠ "") (h : c.ReadFrom delimiter path) :
    c.package = packageSegments delimiter path ∧ c.delimiter = delimiter := by
  obtain ⟨hread, hentry, hpath⟩ := h
  obtain ⟨spec, hspec, rfl⟩ := (ofValue_ok_iff hdelimiter).mp hread
  have hwritten := (List.forall₂_iff_zip.mp (hspec.forall₂_classes delimiter)).2 hentry
  obtain ⟨written, ⟨_, hfields, hclass⟩, rfl⟩ := hwritten.entry
  cases hfields
  rw [(Checked.judges_optionalField "package" Checked.judges_text "").eq_of_writes hpath hclass.package]
  exact ⟨rfl, rfl⟩

theorem Class.exists_readFrom (hdelimiter : delimiter ≠ "") (path : String) :
    ∃ c : Class, c.ReadFrom delimiter path := by
  let spec : ClassSpec := ⟨"A", path, [], none, []⟩
  have hclass : ClassSpec.check spec.document = .ok spec := ClassSpec.check_document nofun
  have hmodel : ModelSpec.Written (ModelSpec.document ⟨"model", [spec]⟩) ⟨"model", [spec]⟩ :=
    ModelSpec.check_filled_ok_iff.mp (ModelSpec.check_document (by simp [spec]))
  obtain ⟨_, hfields, hwritten⟩ := (ClassSpec.judges_check.accepts _ _).mp hclass
  cases hfields
  have hentries : classEntries (ModelSpec.document ⟨"model", [spec]⟩) = [spec.document] := by
    simp [classEntries, elements, ModelSpec.document, ModelSpec.fields, elements?]
  have hread := (ofValue_ok_iff hdelimiter).mpr ⟨_, hmodel, rfl⟩
  refine ⟨spec.outline delimiter, .intro hread ?_ hwritten.package⟩
  rw [hentries]
  exact List.mem_singleton.mpr rfl

/-- The segments of a package are not empty and do not hold the delimiter. Reading the name of the
package gives the package again, so that packages of the same name are the same. -/
theorem Class.package_normal (hdelimiter : delimiter ≠ "") :
    (∀ path, ∃ c : Class, c.ReadFrom delimiter path) ∧
    ∀ path (c : Class), c.ReadFrom delimiter path →
      (∀ segment ∈ c.package, segment ≠ "" ∧ ¬ delimiter.toList <:+: segment.toList) ∧
      (∀ d : Class, d.ReadFrom delimiter c.packageName → d.package = c.package) ∧
      ∀ other (d : Class), d.ReadFrom delimiter other →
        (d.packageName = c.packageName ↔ d.package = c.package) := by
  have hname : ∀ path (c : Class), c.ReadFrom delimiter path →
      packageSegments delimiter c.packageName = c.package := by
    intro path c hc
    obtain ⟨hpackage, hused⟩ := hc.package_eq hdelimiter
    rw [packageName, hused, hpackage, packageSegments_join_packageSegments hdelimiter]
  refine ⟨exists_readFrom hdelimiter, fun path c hc => ⟨fun segment hsegment => ?_, fun d hd => ?_,
    fun other d hd => ⟨fun hsame => ?_, fun hsame => ?_⟩⟩⟩
  · rw [(hc.package_eq hdelimiter).1] at hsegment
    exact mem_packageSegments hdelimiter hsegment
  · exact (hd.package_eq hdelimiter).1.trans (hname path c hc)
  · exact (hname other d hd).symm.trans ((congrArg _ hsame).trans (hname path c hc))
  · rw [packageName, packageName, hsame, (hd.package_eq hdelimiter).2, (hc.package_eq hdelimiter).2]

end

/-- Leaving out the empty segment between two delimiters joins pieces that both end like the delimiter. -/
theorem Class.package_normal_overlapping :
    "aba" ≠ "" ∧ ∃ c d : Class, c.ReadFrom "aba" "aabaabaa" ∧ c.package = ["a", "a"] ∧
      d.ReadFrom "aba" c.packageName ∧ d.package = c.package ∧
      ∀ segment ∈ c.package, segment ≠ "" ∧ ¬ "aba".toList <:+: segment.toList := by
  have hdelimiter : "aba" ≠ "" := by decide
  obtain ⟨hread, hnormal⟩ := package_normal hdelimiter
  obtain ⟨c, hc⟩ := hread "aabaabaa"
  obtain ⟨d, hd⟩ := hread c.packageName
  obtain ⟨hsegments, hagain, -⟩ := hnormal _ c hc
  have hpackage : packageSegments "aba" "aabaabaa" = ["a", "a"] := by decide +kernel
  exact ⟨hdelimiter, c, d, hc, (hc.package_eq hdelimiter).1.trans hpackage, hd, hagain d hd, hsegments⟩

end Codegen.Model
