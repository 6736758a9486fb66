import Codegen.Output.Directive
import Codegen.Proofs.Text.Splitting
import Codegen.Proofs.Text.Words

/-! Texts that begin with a line that says where the rest of them goes. The words of the line are all that
is looked at. -/

namespace Codegen.Output

open Codegen.Text

section

variable {line text : String}

theorem firstLine_line (hline : '\n' ∉ line.toList) (text : String) :
    firstLine (line ++ "\n" ++ text) = (line, text) := by
  have hcut : cut? "\n" (line ++ "\n" ++ text) = some (line, text) := by
    rw [cut?, String.toList_append, String.toList_append, List.append_assoc,
      cutList?_mark (c := '\n') (by decide) hline, Option.map_some]
    dsimp only
    rw [String.ofList_toList, String.ofList_toList]
  rw [firstLine, hcut, Option.getD_some]

theorem firstLine_of_not_mem (hline : '\n' ∉ line.toList) : firstLine line = (line, "") := by
  rw [firstLine, cut?, show ("\n").toList = ['\n'] from rfl,
    cutList?_of_not_mem (List.mem_singleton_self '\n') hline]
  rfl

theorem line_or_more (text : String) : '\n' ∉ text.toList ∨
    ∃ line more, '\n' ∉ line.toList ∧ text = line ++ "\n" ++ more := by
  obtain ⟨pieces, hne, hfree, htext⟩ := exists_joinList '\n' text.toList
  cases pieces with
  | nil => exact absurd rfl hne
  | cons line rest =>
      have hline := hfree line List.mem_cons_self
      cases rest with
      | nil =>
          rw [joinList] at htext
          exact .inl (htext ▸ hline)
      | cons next rest =>
          refine .inr ⟨String.ofList line, String.ofList (joinList ['\n'] (next :: rest)), ?_, ?_⟩
          · rwa [String.toList_ofList]
          · rw [← String.toList_inj, ← htext]
            simp [joinList]

theorem firstLine_append (hline : '\n' ∉ line.toList) (text : String) :
    firstLine (line ++ text) = (line ++ (firstLine text).1, (firstLine text).2) := by
  rcases line_or_more text with htext | ⟨first, rest, hfirst, rfl⟩
  · have hboth : '\n' ∉ (line ++ text).toList := by simp [hline, htext]
    rw [firstLine_of_not_mem hboth, firstLine_of_not_mem htext]
  · have hboth : '\n' ∉ (line ++ first).toList := by simp [hline, hfirst]
    rw [firstLine_line hfirst, String.append_assoc, ← String.append_assoc, ← String.append_assoc,
      firstLine_line hboth]

end

section

variable {mode : Mode} {path body : String} {name : Option String}

theorem isUnbroken_name (mode : Mode) : IsUnbroken mode.name := by
  cases mode <;> decide

theorem words_directive {word : String} (hne : word ≠ "") (hword : IsUnbroken word) (path : String) :
    words (directiveStart ++ word ++ " " ++ path) = "##output" :: word :: words path := by
  have hblank : (" ").toList = [' '] := rfl
  have hstart : directiveStart = "##output" ++ " " := rfl
  rw [hstart, words_append_blank hblank (by decide), words_append_blank hblank (by decide),
    words_of_isUnbroken (by decide) (by decide), words_of_isUnbroken hne hword]
  rfl

end

end Codegen.Output
