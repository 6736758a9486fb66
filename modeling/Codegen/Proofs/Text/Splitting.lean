import Codegen.Text.Basic
import Mathlib.Data.List.Basic

/-! Splitting undoes joining, when a character of the mark stands in none of the pieces. -/

namespace Codegen.Text

section

variable {mark piece : List Char} {c : Char}

theorem dropStart?_mark (hmark : c ∈ mark) (hpiece : c ∉ piece) (hne : piece ≠ [])
    (rest : List Char) : dropStart? mark (piece ++ (mark ++ rest)) = none := by
  rw [Option.eq_none_iff_forall_ne_some]
  intro after hafter
  have htext := dropStart?_eq_some_iff.mp hafter
  -- the character is first met behind the piece, but also within the first mark
  have hfirst := congrArg (List.idxOf c) htext
  rw [List.idxOf_append_of_notMem hpiece, List.idxOf_append_of_mem hmark,
    List.idxOf_append_of_mem hmark] at hfirst
  have hpos := List.length_pos_iff.mpr hne
  omega

theorem cutList?_mark (hmark : c ∈ mark) (hpiece : c ∉ piece) (rest : List Char) :
    cutList? mark (piece ++ (mark ++ rest)) = some (piece, rest) := by
  induction piece with
  | nil =>
      obtain ⟨first, others, rfl⟩ := List.exists_cons_of_ne_nil (List.ne_nil_of_mem hmark)
      rw [List.nil_append, List.cons_append, cutList?, ← List.cons_append,
        dropStart?_eq_some_iff.mpr rfl]
  | cons first others ih =>
      rw [List.mem_cons, not_or] at hpiece
      rw [List.cons_append, cutList?, ← List.cons_append,
        dropStart?_mark hmark (List.not_mem_cons_of_ne_of_not_mem hpiece.1 hpiece.2)
          (List.cons_ne_nil _ _), ih hpiece.2, Option.map_some]

theorem cutList?_of_not_mem (hmark : c ∈ mark) (hpiece : c ∉ piece) : cutList? mark piece = none := by
  cases hcut : cutList? mark piece with
  | none => rfl
  | some parts =>
      refine absurd ?_ hpiece
      rw [eq_of_cutList? hcut]
      exact List.mem_append_left _ (List.mem_append_right _ hmark)

theorem splitList_of_uncut {text : List Char} (hmark : mark ≠ [])
    (hcut : cutList? mark text = none) : splitList mark text = [text] := by
  rw [splitList, dif_neg hmark]
  split
  · rfl
  · next hsome =>
    rw [hcut] at hsome
    cases hsome

theorem splitList_of_cut {text before after : List Char} (hmark : mark ≠ [])
    (hcut : cutList? mark text = some (before, after)) :
    splitList mark text = before :: splitList mark after := by
  rw [splitList, dif_neg hmark]
  split
  · next hnone =>
    rw [hcut] at hnone
    cases hnone
  · next hsome =>
    rw [hcut] at hsome
    cases hsome
    rfl

theorem splitList_joinList (hmark : c ∈ mark) {pieces : List (List Char)} (hne : pieces ≠ [])
    (hpieces : ∀ piece ∈ pieces, c ∉ piece) : splitList mark (joinList mark pieces) = pieces := by
  have hmark_ne : mark ≠ [] := List.ne_nil_of_mem hmark
  induction pieces with
  | nil => exact absurd rfl hne
  | cons piece others ih =>
      obtain ⟨hpiece, hothers⟩ := List.forall_mem_cons.mp hpieces
      cases others with
      | nil => exact splitList_of_uncut hmark_ne (cutList?_of_not_mem hmark hpiece)
      | cons next others =>
          rw [joinList, List.append_assoc, splitList_of_cut hmark_ne (cutList?_mark hmark hpiece _),
            ih (List.cons_ne_nil _ _) hothers]

theorem joinList_append {first second : List (List Char)} (hfirst : first ≠ []) (hsecond : second ≠ []) :
    joinList mark (first ++ second) = joinList mark first ++ mark ++ joinList mark second := by
  obtain ⟨next, others, rfl⟩ := List.exists_cons_of_ne_nil hsecond
  induction first with
  | nil => exact absurd rfl hfirst
  | cons piece rest ih =>
      cases rest with
      | nil => rfl
      | cons following rest =>
          have hrest := ih (List.cons_ne_nil _ _)
          simp only [List.cons_append] at hrest ⊢
          simp only [joinList, hrest, List.append_assoc]

theorem mem_joinList {pieces : List (List Char)} (h : c ∈ joinList mark pieces) :
    c ∈ mark ∨ ∃ piece ∈ pieces, c ∈ piece := by
  induction pieces with
  | nil => cases h
  | cons piece rest ih =>
      cases rest with
      | nil => exact .inr ⟨piece, List.mem_cons_self, h⟩
      | cons next rest =>
          rw [joinList, List.mem_append, List.mem_append] at h
          rcases h with (h | h) | h
          · exact .inr ⟨piece, List.mem_cons_self, h⟩
          · exact .inl h
          · refine (ih h).imp id ?_
            rintro ⟨other, hother, hmem⟩
            exact ⟨other, List.mem_cons_of_mem piece hother, hmem⟩

theorem mem_joinList_of_mem {pieces : List (List Char)} (hpiece : piece ∈ pieces) (h : c ∈ piece) :
    c ∈ joinList mark pieces := by
  induction pieces with
  | nil => cases hpiece
  | cons first rest ih =>
      cases rest with
      | nil => exact List.mem_singleton.mp hpiece ▸ h
      | cons next rest =>
          rw [joinList, List.mem_append]
          rcases List.mem_cons.mp hpiece with rfl | hpiece
          · exact .inl (List.mem_append_left _ h)
          · exact .inr (ih hpiece)

theorem joinList_eq_nil (hmark : mark ≠ []) {pieces : List (List Char)} (h : joinList mark pieces = []) :
    pieces = [] ∨ pieces = [[]] := by
  match pieces, h with
  | [], _ => exact .inl rfl
  | [piece], h => exact .inr (congrArg (fun piece => [piece]) h)
  | piece :: next :: rest, h =>
      rw [joinList, List.append_eq_nil_iff, List.append_eq_nil_iff] at h
      exact absurd h.1.2 hmark

theorem joinList_concat {pieces : List (List Char)} (hne : pieces ≠ []) :
    joinList mark (pieces ++ [piece]) = joinList mark pieces ++ mark ++ piece :=
  joinList_append hne (List.cons_ne_nil _ _)

theorem joinList_nil (pieces : List (List Char)) : joinList [] pieces = pieces.flatten := by
  induction pieces with
  | nil => rfl
  | cons piece rest ih =>
      cases rest with
      | nil => rw [joinList, List.flatten_singleton]
      | cons next rest => rw [joinList, List.append_nil, ih, ← List.flatten_cons]

theorem flatMap_joinList (form : Char → List Char) (pieces : List (List Char)) :
    (joinList mark pieces).flatMap form =
      joinList (mark.flatMap form) (pieces.map (List.flatMap form)) := by
  induction pieces with
  | nil => rfl
  | cons piece rest ih =>
      cases rest with
      | nil => rfl
      | cons next rest =>
          rw [joinList, List.flatMap_append, List.flatMap_append, ih]
          rfl

theorem joinList_cons_cons (first : Char) (others : List Char) (pieces : List (List Char)) :
    joinList mark ((first :: others) :: pieces) = first :: joinList mark (others :: pieces) := by
  cases pieces <;> rfl

theorem exists_joinList (c : Char) (text : List Char) :
    ∃ pieces, pieces ≠ [] ∧ (∀ piece ∈ pieces, c ∉ piece) ∧ joinList [c] pieces = text := by
  induction text with
  | nil => exact ⟨[[]], by simp, by simp, rfl⟩
  | cons first rest ih =>
      obtain ⟨pieces, hne, hpieces, rfl⟩ := ih
      obtain ⟨piece, others, rfl⟩ := List.exists_cons_of_ne_nil hne
      by_cases hfirst : first = c
      · subst hfirst
        exact ⟨[] :: piece :: others, by simp, by simpa using hpieces, rfl⟩
      · refine ⟨(first :: piece) :: others, by simp, ?_, joinList_cons_cons first piece others⟩
        obtain ⟨hpiece, hothers⟩ := List.forall_mem_cons.mp hpieces
        refine List.forall_mem_cons.mpr ⟨?_, hothers⟩
        exact List.not_mem_cons_of_ne_of_not_mem (Ne.symm hfirst) hpiece

theorem splitList_append_cons (c : Char) (before after : List Char) :
    splitList [c] (before ++ c :: after) = splitList [c] before ++ splitList [c] after := by
  obtain ⟨first, hfirst, hfree, rfl⟩ := exists_joinList c before
  obtain ⟨second, hsecond, hfree', rfl⟩ := exists_joinList c after
  have hall : ∀ piece ∈ first ++ second, c ∉ piece := fun piece hpiece =>
    (List.mem_append.mp hpiece).elim (hfree piece) (hfree' piece)
  have hjoin := @joinList_append [c] first second hfirst hsecond
  rw [List.append_assoc, List.singleton_append] at hjoin
  rw [← hjoin, splitList_joinList (List.mem_singleton_self c) (by simp [hfirst]) hall,
    splitList_joinList (List.mem_singleton_self c) hfirst hfree,
    splitList_joinList (List.mem_singleton_self c) hsecond hfree']

theorem not_mem_of_mem_splitList {text : List Char} (h : piece ∈ splitList [c] text) : c ∉ piece := by
  obtain ⟨pieces, hne, hpieces, rfl⟩ := exists_joinList c text
  rw [splitList_joinList (List.mem_singleton_self c) hne hpieces] at h
  exact hpieces piece h

theorem splitList_ne_nil (mark text : List Char) : splitList mark text ≠ [] := by
  rw [splitList]
  split
  · simp
  · split <;> simp

theorem joinList_splitList (hmark : mark ≠ []) (text : List Char) :
    joinList mark (splitList mark text) = text := by
  cases hcut : cutList? mark text with
  | none => rw [splitList_of_uncut hmark hcut, joinList]
  | some parts =>
      obtain ⟨before, after⟩ := parts
      have hshorter := length_lt_of_cutList? hmark hcut
      have hrest := joinList_splitList hmark after
      rw [splitList_of_cut hmark hcut]
      have hjoin := @joinList_append mark [before] _ (by simp) (splitList_ne_nil mark after)
      rw [List.singleton_append] at hjoin
      rw [hjoin, hrest, joinList]
      exact (eq_of_cutList? hcut).symm
termination_by text.length

/-! What replacing a mark makes of a text. -/

variable {replacement text : List Char}

theorem replaceList_of_ne_nil (hmark : mark ≠ []) (text : List Char) :
    replaceList mark replacement text = joinList replacement (splitList mark text) :=
  if_neg hmark

theorem mem_replaceList (hmark : mark ≠ []) (h : c ∈ replaceList mark replacement text) :
    c ∈ replacement ∨ ∃ piece ∈ splitList mark text, c ∈ piece :=
  mem_joinList (replaceList_of_ne_nil hmark text ▸ h)

theorem mem_of_mem_splitList (hmark : mark ≠ []) (hpiece : piece ∈ splitList mark text) (h : c ∈ piece) :
    c ∈ text :=
  joinList_splitList hmark text ▸ mem_joinList_of_mem hpiece h

theorem mem_replaceList_of_mem (hmark : mark ≠ []) (hc : c ∉ mark) (h : c ∈ text) :
    c ∈ replaceList mark replacement text := by
  rw [← joinList_splitList hmark text] at h
  obtain ⟨piece, hpiece, hmem⟩ := (mem_joinList h).resolve_left hc
  exact replaceList_of_ne_nil hmark text ▸ mem_joinList_of_mem hpiece hmem

theorem replaceList_ne_nil (hmark : mark ≠ []) (hreplacement : replacement ≠ []) (htext : text ≠ []) :
    replaceList mark replacement text ≠ [] := by
  rw [replaceList_of_ne_nil hmark]
  intro hempty
  rcases joinList_eq_nil hreplacement hempty with hnone | hsingle
  · exact splitList_ne_nil mark text hnone
  · exact htext (by rw [← joinList_splitList hmark text, hsingle]; rfl)

theorem replaceList_of_not_mem (hmark : c ∈ mark) (hpiece : c ∉ piece) :
    replaceList mark replacement piece = piece := by
  have hne : mark ≠ [] := List.ne_nil_of_mem hmark
  rw [replaceList_of_ne_nil hne, splitList_of_uncut hne (cutList?_of_not_mem hmark hpiece), joinList]

end

theorem join_singleton (mark piece : String) : join mark [piece] = piece := String.ofList_toList

theorem join_append (mark : String) {first second : List String} (hfirst : first ≠ []) (hsecond : second ≠ []) :
    join mark (first ++ second) = join mark first ++ mark ++ join mark second := by
  have hlist := @joinList_append mark.toList (first.map String.toList) (second.map String.toList)
    (by simpa using hfirst) (by simpa using hsecond)
  simp only [join, List.map_append, hlist, String.ofList_append, String.ofList_toList]

theorem mem_join_of_mem {mark piece : String} {pieces : List String} {c : Char} (hpiece : piece ∈ pieces)
    (h : c ∈ piece.toList) : c ∈ (join mark pieces).toList := by
  rw [join, String.toList_ofList]
  exact mem_joinList_of_mem (List.mem_map_of_mem hpiece) h

theorem join_map_join (mark : String) {groups : List (List String)} (hgroups : ∀ group ∈ groups, group ≠ []) :
    join mark (groups.map (join mark)) = join mark groups.flatten := by
  induction groups with
  | nil => rfl
  | cons group rest ih =>
      obtain ⟨hgroup, hrest⟩ := List.forall_mem_cons.mp hgroups
      cases rest with
      | nil => rw [List.map_singleton, join_singleton, List.flatten_singleton]
      | cons next rest =>
          have hnext : (next :: rest).flatten ≠ [] := by
            simpa using fun h => absurd h (hrest next List.mem_cons_self)
          rw [List.map_cons, List.flatten_cons, join_append mark hgroup hnext, ← ih hrest,
            ← List.singleton_append, join_append mark (List.cons_ne_nil _ _) (by simp), join_singleton]

theorem split_join {mark : String} {c : Char} (hmark : c ∈ mark.toList) {pieces : List String}
    (hne : pieces ≠ []) (hpieces : ∀ piece ∈ pieces, c ∉ piece.toList) :
    split mark (join mark pieces) = pieces := by
  rw [split, join, String.toList_ofList, splitList_joinList hmark (by simpa using hne)]
  · simp [Function.comp_def]
  · simpa using hpieces

theorem replace_join {mark replacement : String} {c : Char} (hmark : c ∈ mark.toList) {pieces : List String}
    (hne : pieces ≠ []) (hpieces : ∀ piece ∈ pieces, c ∉ piece.toList) :
    replace mark replacement (join mark pieces) = join replacement pieces := by
  have hpieces' : ∀ piece ∈ pieces.map String.toList, c ∉ piece := by simpa using hpieces
  rw [replace, join, String.toList_ofList, replaceList_of_ne_nil (List.ne_nil_of_mem hmark),
    splitList_joinList hmark (by simpa using hne) hpieces', join]

theorem toList_replace (mark replacement text : String) : (replace mark replacement text).toList =
    replaceList mark.toList replacement.toList text.toList :=
  String.toList_ofList

theorem replace_of_not_mem {mark text : String} {c : Char} (hmark : c ∈ mark.toList) (htext : c ∉ text.toList)
    (replacement : String) : replace mark replacement text = text := by
  rw [replace, replaceList_of_not_mem hmark htext, String.ofList_toList]

theorem not_mem_of_mem_split {mark text piece : String} {c : Char} (hmark : mark.toList = [c])
    (h : piece ∈ split mark text) : c ∉ piece.toList := by
  obtain ⟨letters, hletters, rfl⟩ := List.mem_map.mp h
  rw [String.toList_ofList]
  exact not_mem_of_mem_splitList (hmark ▸ hletters)

theorem exists_mem_split {mark text : String} {c : Char} (hmark : mark ≠ "") (hc : c ∉ mark.toList)
    (h : c ∈ text.toList) : ∃ piece ∈ split mark text, c ∈ piece.toList := by
  have hnonempty : mark.toList ≠ [] := by simpa using hmark
  rw [← joinList_splitList hnonempty text.toList] at h
  obtain ⟨letters, hletters, hmem⟩ := (mem_joinList h).resolve_left hc
  exact ⟨String.ofList letters, List.mem_map_of_mem hletters, by rwa [String.toList_ofList]⟩

theorem split_empty {mark : String} (hmark : mark ≠ "") : split mark "" = [""] := by
  have hne : mark.toList ≠ [] := by simpa using hmark
  have huncut : cutList? mark.toList [] = none := by simp [cutList?, hmark]
  rw [split, String.toList_empty, splitList_of_uncut hne huncut]
  rfl

end Codegen.Text
