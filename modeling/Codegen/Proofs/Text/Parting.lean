import Codegen.Proofs.Text.Splitting

/-!
The pieces that a mark of any length leaves. In each of them but the last the mark is first met right
behind the piece, and this does not depend on what comes after the mark. So pieces may be left out, and the
others are found again when they are joined.
-/

namespace Codegen.Text

section

variable {mark text before after : List Char}

theorem dropStart?_eq_none_iff : dropStart? mark text = none ↔ ¬ mark <+: text := by
  rw [Option.eq_none_iff_forall_ne_some]
  constructor
  · rintro h ⟨rest, rfl⟩
    exact h rest (dropStart?_eq_some_iff.mpr rfl)
  · intro h rest hrest
    exact h ⟨rest, (dropStart?_eq_some_iff.mp hrest).symm⟩

theorem cutList?_cons_some {c : Char} (h : dropStart? mark (c :: text) = some after) :
    cutList? mark (c :: text) = some ([], after) := by
  rw [cutList?, h]

theorem cutList?_cons_none {c : Char} (h : dropStart? mark (c :: text) = none) :
    cutList? mark (c :: text) = (cutList? mark text).map fun (before, after) => (c :: before, after) := by
  rw [cutList?, h]

variable (hmark : mark ≠ [])
include hmark

theorem cutList?_eq_none_iff : cutList? mark text = none ↔ ¬ mark <:+: text := by
  induction text with
  | nil => simp [cutList?, hmark]
  | cons c text ih =>
      rw [List.infix_cons_iff, not_or, ← ih, ← dropStart?_eq_none_iff]
      cases hstart : dropStart? mark (c :: text) with
      | none => simp [cutList?_cons_none hstart]
      | some rest => simp [cutList?_cons_some hstart]

theorem not_isInfix_dropLast : ¬ mark <:+: mark.dropLast := by
  intro h
  have hlength := h.length_le
  have hpos := List.length_pos_iff.mpr hmark
  rw [List.length_dropLast] at hlength
  omega

theorem prefix_dropLast_iff (c : Char) (before after : List Char) :
    mark <+: c :: (before ++ mark ++ after) ↔ mark <+: c :: (before ++ mark.dropLast) := by
  have hwhole : c :: (before ++ mark.dropLast) <+: c :: (before ++ mark ++ after) := by
    obtain ⟨last, hlast⟩ := mark.dropLast_prefix
    refine ⟨last ++ after, ?_⟩
    rw [List.cons_append, List.append_assoc, ← List.append_assoc mark.dropLast, hlast, List.append_assoc]
  refine ⟨fun h => List.prefix_of_prefix_length_le h hwhole ?_, fun h => h.trans hwhole⟩
  have hpos := List.length_pos_iff.mpr hmark
  simp only [List.length_cons, List.length_append, List.length_dropLast]
  omega

theorem cutList?_of_not_isInfix (h : ¬ mark <:+: before ++ mark.dropLast) (after : List Char) :
    cutList? mark (before ++ mark ++ after) = some (before, after) := by
  induction before with
  | nil =>
      obtain ⟨first, others, rfl⟩ := List.exists_cons_of_ne_nil hmark
      exact cutList?_cons_some (dropStart?_eq_some_iff.mpr rfl)
  | cons c before ih =>
      rw [List.cons_append, List.infix_cons_iff, not_or] at h
      have hstart : dropStart? mark (c :: (before ++ mark ++ after)) = none := by
        rw [dropStart?_eq_none_iff, prefix_dropLast_iff hmark]
        exact h.1
      rw [List.cons_append, List.cons_append, cutList?_cons_none hstart, ih h.2, Option.map_some]

theorem not_isInfix_of_cutList? (h : cutList? mark text = some (before, after)) :
    ¬ mark <:+: before ++ mark.dropLast := by
  induction text generalizing before with
  | nil => simp [cutList?, hmark] at h
  | cons c text ih =>
      cases hstart : dropStart? mark (c :: text) with
      | some rest =>
          rw [cutList?_cons_some hstart] at h
          cases h
          exact not_isInfix_dropLast hmark
      | none =>
          rw [cutList?_cons_none hstart] at h
          obtain ⟨⟨before, after⟩, hcut, hparts⟩ := Option.map_eq_some_iff.mp h
          cases hparts
          rw [List.cons_append, List.infix_cons_iff, not_or]
          refine ⟨?_, ih hcut⟩
          rw [← prefix_dropLast_iff hmark _ _ after, ← eq_of_cutList? hcut, ← dropStart?_eq_none_iff]
          exact hstart

end

/-- Pieces that a mark leaves: it is first met behind each of them, and not at all in the last one. -/
inductive Parted (mark : List Char) : List (List Char) → Prop
  | last {piece : List Char} : ¬ mark <:+: piece → Parted mark [piece]
  | cons {piece : List Char} {pieces : List (List Char)} :
      ¬ mark <:+: piece ++ mark.dropLast → Parted mark pieces → Parted mark (piece :: pieces)

section

variable {mark : List Char} {pieces : List (List Char)}

theorem not_isInfix_of_append {piece rest : List Char} (h : ¬ mark <:+: piece ++ rest) :
    ¬ mark <:+: piece :=
  fun hpiece => h (hpiece.trans (List.prefix_append piece rest).isInfix)

theorem Parted.not_isInfix (h : Parted mark pieces) : ∀ piece ∈ pieces, ¬ mark <:+: piece := by
  induction h with
  | last hlast => simpa using hlast
  | cons hfirst _ ih => exact List.forall_mem_cons.mpr ⟨not_isInfix_of_append hfirst, ih⟩

theorem Parted.filter (h : Parted mark pieces) (keep : List Char → Bool) :
    pieces.filter keep = [] ∨ Parted mark (pieces.filter keep) := by
  induction h with
  | @last piece hlast =>
      cases hkeep : keep piece with
      | false => simp [hkeep]
      | true =>
          rw [List.filter_cons_of_pos hkeep]
          exact .inr (.last hlast)
  | @cons piece pieces hfirst _ ih =>
      cases hkeep : keep piece with
      | false => simpa [hkeep] using ih
      | true =>
          rw [List.filter_cons_of_pos hkeep]
          refine .inr ?_
          rcases ih with hnone | hrest
          · rw [hnone]
            exact .last (not_isInfix_of_append hfirst)
          · exact .cons hfirst hrest

variable (hmark : mark ≠ [])
include hmark

theorem parted_splitList (text : List Char) : Parted mark (splitList mark text) := by
  cases hcut : cutList? mark text with
  | none =>
      rw [splitList_of_uncut hmark hcut]
      exact .last ((cutList?_eq_none_iff hmark).mp hcut)
  | some parts =>
      obtain ⟨before, after⟩ := parts
      have hshorter := length_lt_of_cutList? hmark hcut
      rw [splitList_of_cut hmark hcut]
      exact .cons (not_isInfix_of_cutList? hmark hcut) (parted_splitList after)
termination_by text.length

theorem Parted.splitList_joinList (h : Parted mark pieces) :
    splitList mark (joinList mark pieces) = pieces := by
  induction h with
  | last hlast => exact splitList_of_uncut hmark ((cutList?_eq_none_iff hmark).mpr hlast)
  | @cons piece pieces hfirst hrest ih =>
      have hne : pieces ≠ [] := by
        rintro rfl
        cases hrest
      have hjoin := @joinList_append mark [piece] pieces (List.cons_ne_nil _ _) hne
      rw [List.singleton_append] at hjoin
      rw [hjoin, joinList, splitList_of_cut hmark (cutList?_of_not_isInfix hmark hfirst _), ih]

end

end Codegen.Text
