import Codegen.Output.Directive
import Codegen.Proofs.Files.Name
import Codegen.Proofs.Text.Character

/-! The names of properties that come from the names of classes. -/

namespace Codegen

namespace Text

/-! Which characters have a small `s`. -/

/-- Unless it is a run of ASCII letters, the run does not lead to a small `s`. -/
def CaseRun.avoidsSmallS (run : CaseRun) : Bool :=
  run.last < 128 || 's'.toNat < run.first + run.shift || run.last + run.shift < 's'.toNat

theorem lowerRuns_avoidSmallS : ∀ run ∈ lowerRuns, run.avoidsSmallS = true := by
  decide +kernel

theorem CaseRun.ne_of_image? {run : CaseRun} {code image : Nat} (hrun : run.avoidsSmallS = true)
    (hcode : 128 ≤ code) (h : run.image? code = some image) : Char.ofNat image ≠ 's' :=
  CaseRun.ofNat_ne_of_image? (c := 's') hrun (by decide) hcode h

theorem lowerChar_head (c : Char) : ∃ first rest, lowerChar c = first :: rest ∧
    (first = 's' → (c = 's' ∨ c = 'S') ∧ rest = []) := by
  rw [lowerChar]
  split
  · rename_i hascii
    split
    · refine ⟨_, _, rfl, fun h => ⟨.inr ?_, rfl⟩⟩
      have hcode := eq_code_of_ofNat h (by decide)
      have hupper : c.toNat = 'S'.toNat := Nat.add_right_cancel (hcode.trans rfl)
      exact Char.toNat_inj.mp hupper
    · exact ⟨_, _, rfl, fun h => ⟨.inl h, rfl⟩⟩
  · rename_i hbeyond
    -- Beyond ASCII the tables alone tell what a character becomes.
    rw [mapCase]
    cases himage : lowerRuns.findSome? (·.image? c.toNat) with
    | some image =>
        obtain ⟨run, hrun, hsome⟩ := List.exists_of_findSome?_eq_some himage
        have hne := CaseRun.ne_of_image? (lowerRuns_avoidSmallS run hrun) (by omega) hsome
        exact ⟨_, _, rfl, fun h => absurd h hne⟩
    | none =>
        cases hexpansion : lowerExpansions.lookup c.toNat with
        | none =>
            refine ⟨_, _, rfl, fun h => absurd ?_ hbeyond⟩
            rw [h]
            decide
        | some expansion =>
            obtain ⟨before, rest, hsplit, _⟩ := List.lookup_eq_some_iff.mp hexpansion
            have hmem : (c.toNat, expansion) ∈ lowerExpansions := by simp [hsplit]
            obtain ⟨_, rfl⟩ := Prod.mk.inj (List.mem_singleton.mp hmem)
            exact ⟨_, _, rfl, fun h => absurd h (by decide)⟩

theorem lowerAt_head (c : Char) : ∃ first rest, lowerAt [] c [] = first :: rest ∧
    (first = 's' → (c = 's' ∨ c = 'S') ∧ rest = []) := by
  rw [lowerAt]
  split
  · exact ⟨_, _, rfl, fun h => absurd h (by decide)⟩
  · exact lowerChar_head c

theorem lowerFirst_eq_self_iff (name : String) :
    lowerFirst name = "self" ↔ name = "self" ∨ name = "Self" := by
  constructor
  · intro h
    have hlist : lowerFirstList name.toList = "self".toList := by
      rw [← h, lowerFirst, String.toList_ofList]
    cases htext : name.toList with
    | nil =>
        rw [htext] at hlist
        cases hlist
    | cons c cs =>
        obtain ⟨first, rest, hlower, hfirst⟩ := lowerAt_head c
        rw [htext, lowerFirstList, hlower] at hlist
        obtain ⟨hs, htail⟩ := List.cons.inj hlist
        obtain ⟨hc, rfl⟩ := hfirst hs
        have hrest : cs = ['e', 'l', 'f'] := htail
        rw [hrest] at htext
        refine hc.imp ?_ ?_ <;>
          (rintro rfl
           exact String.toList_inj.mp htext)
  · rintro (rfl | rfl) <;> decide +kernel

end Text

namespace Output

open Files

def IsExtension (extension : String) : Prop :=
  '/' ∉ extension.toList ∧ (extension = "" ∨ extension.toList.head? = some '.')

theorem slash_not_mem_name (text : String) : '/' ∉ (Path.ofString text).name.toList := by
  rw [Path.name]
  cases hlast : (Path.ofString text).parts.getLast? with
  | none => simp
  | some part =>
      have hpart : part ∈ Text.split "/" text := List.mem_of_mem_filter (List.mem_of_getLast? hlast)
      obtain ⟨piece, hpiece, rfl⟩ := List.mem_map.mp hpart
      rw [Option.getD_some, String.toList_ofList]
      exact Text.not_mem_of_mem_splitList (c := '/') hpiece

theorem innerDot?_eq_some {name : List Char} {dot : Nat} (h : innerDot? name = some dot) :
    name[dot]? = some '.' := by
  obtain ⟨i, hi, rfl⟩ := Option.map_eq_some_iff.mp h
  obtain ⟨hlt, hdot, _⟩ := List.findIdx?_eq_some_iff_getElem.mp hi
  have hsome := List.getElem?_eq_getElem hlt
  rw [List.getElem?_drop] at hsome
  rw [Nat.add_comm, hsome]
  simpa using hdot

theorem isExtension_defaultExtension (template : String) : IsExtension (defaultExtension template) := by
  have hslash := slash_not_mem_name template
  rw [defaultExtension]
  generalize (Path.ofString template).name.toList = name at hslash
  split
  · rename_i first last hfirst hlast
    split
    · rename_i hlt
      have hdot := innerDot?_eq_some hfirst
      refine ⟨?_, .inr ?_⟩
      · rw [String.toList_ofList]
        exact fun hmem => hslash (List.mem_of_mem_take (List.mem_of_mem_drop hmem))
      · rw [String.toList_ofList, List.head?_drop, List.getElem?_take_of_lt hlt, hdot]
    · exact ⟨by simp, .inl rfl⟩
  · exact ⟨by simp, .inl rfl⟩

theorem innerDot?_append {name : List Char} (hne : name ≠ []) (hname : '.' ∉ name)
    {extension : List Char} (hextension : extension = [] ∨ extension.head? = some '.') :
    innerDot? (name ++ extension) = if extension = [] then none else some name.length := by
  -- The first character does not count, dot or not; the name has no other, so the extension's is met.
  obtain ⟨first, others, rfl⟩ := List.exists_cons_of_ne_nil hne
  have hothers : '.' ∉ others := fun hmem => hname (List.mem_cons_of_mem first hmem)
  have hnone : others.findIdx? (· = '.') = none := by
    rw [List.findIdx?_eq_none_iff]
    intro other hother
    simp only [decide_eq_false_iff_not]
    rintro rfl
    exact hothers hother
  rcases hextension with rfl | hdot
  · simp [innerDot?, hnone]
  · obtain ⟨rest, rfl⟩ : ∃ rest, extension = '.' :: rest := by
      cases extension with
      | nil => cases hdot
      | cons dot rest => exact ⟨rest, by simpa using hdot⟩
    simp [innerDot?, List.findIdx?_append, hnone, List.findIdx?_cons]

theorem isName_identifier {name extension : String} (hname : Text.isIdentifier name = true)
    (hextension : IsExtension extension) : Path.IsName (name ++ extension) := by
  have hne := Text.ne_empty_of_isIdentifier hname
  refine ⟨?_, ?_, ?_⟩
  · simp [Text.slash_not_mem_of_isIdentifier hname, hextension.1]
  · simp [hne]
  · intro hsingle
    have hlist := congrArg String.toList hsingle
    cases htext : name.toList with
    | nil => simp_all
    | cons first others =>
        rw [String.toList_append, htext] at hlist
        obtain ⟨rfl, _⟩ := List.cons.inj hlist
        exact Text.dot_not_mem_of_isIdentifier hname (htext ▸ List.mem_cons_self)

/-- An identifier with an extension, in some directory, is the name of a property: the identifier with a
small first letter. -/
theorem propertyName_identifier {name extension : String} (hname : Text.isIdentifier name = true)
    (hextension : IsExtension extension) (above : String) :
    propertyName (Path.ofString (above ++ "/" ++ (name ++ extension))).toString =
      Text.lowerFirst name := by
  have hne := Text.ne_empty_of_isIdentifier hname
  have hdot := Text.dot_not_mem_of_isIdentifier hname
  rw [propertyName, Path.name_again (isName_identifier hname hextension), String.toList_append]
  have hbase := innerDot?_append (by simpa using hne) hdot
    (hextension.2.imp (fun h => by simp [h]) id)
  rw [hbase]
  split
  · rename_i dot hdot
    obtain ⟨_, hlength⟩ := Option.ite_none_left_eq_some.mp hdot
    simp [← Option.some.inj hlength, Text.lowerFirst]
  · rename_i hnone
    have hempty : extension.toList = [] := by
      by_cases hempty : extension.toList = []
      · exact hempty
      · rw [if_neg hempty] at hnone
        cases hnone
    simp [Text.lowerFirst, hempty]

end Output

end Codegen
