import Codegen.Files.Path
import Codegen.Proofs.Text.Splitting
import Mathlib.Data.List.TakeWhile

/-! The last name of a path that is written down. -/

namespace Codegen

namespace Files.Path

/-- A name that a path can end with. -/
def IsName (name : String) : Prop := '/' ∉ name.toList ∧ name ≠ "" ∧ name ≠ "."

theorem segments_mark (above below : String) :
    segments (above ++ "/" ++ below) = segments above ++ segments below := by
  have hsplit : Text.split "/" (above ++ "/" ++ below) = Text.split "/" above ++ Text.split "/" below := by
    have hlist := Text.splitList_append_cons '/' above.toList below.toList
    simp only [Text.split, String.toList_append, List.append_assoc]
    rw [show ("/" : String).toList = ['/'] from rfl, List.singleton_append, hlist, List.map_append]
  rw [segments, hsplit, List.filter_append, segments, segments]

theorem segments_self {name : String} (hname : IsName name) : segments name = [name] := by
  have hsplit : Text.split "/" name = [name] := by
    have huncut : Text.cutList? ['/'] name.toList = none :=
      Text.cutList?_of_not_mem (List.mem_singleton_self _) hname.1
    rw [Text.split, show ("/" : String).toList = ['/'] from rfl,
      Text.splitList_of_uncut (by simp) huncut]
    simp
  rw [segments, hsplit]
  simp [hname.2.1, hname.2.2]

theorem segments_append {name : String} (hname : IsName name) (above : String) :
    segments (above ++ "/" ++ name) = segments above ++ [name] := by
  rw [segments_mark, segments_self hname]

theorem name_ofString_append {name : String} (hname : IsName name) (above : String) :
    (ofString (above ++ "/" ++ name)).name = name := by
  simp [Path.name, ofString, segments_append hname]

theorem name_ofString_toString {name : String} (hname : IsName name) {path : Path}
    {above : List String} (hparts : path.parts = above ++ [name])
    (hroot : path.root = "" ∨ path.root = "/" ∨ path.root = "//") :
    (ofString path.toString).name = name := by
  have htext : path.toString = path.root ++ Text.join "/" (above ++ [name]) := by
    simp [toString, hparts]
  cases above with
  | nil =>
      have hjoin : Text.join "/" [name] = name := by simp [Text.join, Text.joinList]
      rw [htext, List.nil_append, hjoin]
      rcases hroot with hroot | hroot | hroot <;> rw [hroot]
      · simp [Path.name, ofString, segments_self hname]
      · exact name_ofString_append hname ""
      · exact name_ofString_append hname "/"
  | cons first others =>
      have hjoin : Text.join "/" ((first :: others) ++ [name]) =
          Text.join "/" (first :: others) ++ "/" ++ name := by
        simp only [Text.join, List.map_append, List.map_cons, List.map_nil]
        rw [Text.joinList_concat (by simp)]
        simp [String.ofList_append, String.append_assoc]
      rw [htext, hjoin, ← String.append_assoc, ← String.append_assoc]
      exact name_ofString_append hname _

theorem root_ofString (text : String) :
    (ofString text).root = "" ∨ (ofString text).root = "/" ∨ (ofString text).root = "//" := by
  simp only [ofString]
  split
  · exact .inl rfl
  · split
    · exact .inr (.inr rfl)
    · exact .inr (.inl rfl)

theorem name_again {name : String} (hname : IsName name) (above : String) :
    (ofString (ofString (above ++ "/" ++ name)).toString).name = name :=
  name_ofString_toString hname (segments_append hname above) (root_ofString _)

end Files.Path

end Codegen
