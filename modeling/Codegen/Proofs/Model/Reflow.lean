import Codegen.Model.Support
import Codegen.Proofs.Text.Splitting
import Mathlib.Data.List.Chain
import Mathlib.Tactic.Common

/-! Comments broken into lines. The words stay as they are, every line takes as many of them as fit, and
no other way to break the comment needs fewer lines. -/

namespace Codegen.Model

open Text

/-- The words have room on one line: they are within the width, or there is only one. -/
def Fits (width : Int) (line : List String) : Prop :=
  ((join " " line).length : Int) ≤ width ∨ line.length = 1

theorem length_join_append {first second : List String} (hfirst : first ≠ []) (hsecond : second ≠ []) :
    (join " " (first ++ second)).length = (join " " first).length + 1 + (join " " second).length := by
  rw [join_append " " hfirst hsecond, String.length_append, String.length_append]
  rfl

theorem length_join_concat {line : List String} (hline : line ≠ []) (word : String) :
    (join " " (line ++ [word])).length = (join " " line).length + 1 + word.length := by
  rw [length_join_append hline (List.cons_ne_nil _ _), join_singleton]

theorem length_join_le_of_infix {line wider : List String} (hline : line ≠ []) (h : line <:+: wider) :
    (join " " line).length ≤ (join " " wider).length := by
  obtain ⟨before, behind, rfl⟩ := h
  have hbefore : (join " " line).length ≤ (join " " (before ++ line)).length := by
    by_cases hempty : before = []
    · rw [hempty, List.nil_append]
    · rw [length_join_append hempty hline]
      omega
  by_cases hempty : behind = []
  · rwa [hempty, List.append_nil]
  · rw [length_join_append (List.append_ne_nil_of_right_ne_nil _ hline) hempty]
    omega

/-! ### Filling lines from the left -/

/-- The words in lines of which each is filled as far as the width allows. -/
structure Filled (width : Int) (words : List String) (lines : List (List String)) : Prop where
  flatten : lines.flatten = words
  nonempty : ∀ line ∈ lines, line ≠ []
  fits : ∀ line ∈ lines, Fits width line
  full : lines.IsChain fun line next =>
    ∀ word ∈ next.head?, width < (join " " line).length + 1 + word.length

namespace Filled

variable {width : Int} {word : String} {words line : List String} {lines cut : List (List String)}

theorem nil (width : Int) : Filled width [] [] where
  flatten := rfl
  nonempty := by simp
  fits := by simp
  full := .nil

theorem singleton (hline : line ≠ []) (hfits : Fits width line) : Filled width line [line] where
  flatten := List.flatten_singleton
  nonempty := by simpa using hline
  fits := by simpa using hfits
  full := .singleton line

theorem head (h : Filled width (word :: words) lines) :
    ∃ others rest, lines = (word :: others) :: rest := by
  obtain ⟨hflatten, hnonempty, _, _⟩ := h
  cases lines with
  | nil => cases hflatten
  | cons first rest =>
      obtain ⟨next, others, rfl⟩ := List.exists_cons_of_ne_nil (hnonempty first List.mem_cons_self)
      obtain ⟨rfl, _⟩ := List.cons.inj hflatten
      exact ⟨others, rest, rfl⟩

theorem cons (h : Filled width (word :: words) lines) (hline : line ≠ []) (hfits : Fits width line)
    (hfull : width < (join " " line).length + 1 + word.length) :
    Filled width (line ++ word :: words) (line :: lines) := by
  obtain ⟨others, rest, rfl⟩ := h.head
  refine ⟨by rw [List.flatten_cons, h.flatten], List.forall_mem_cons.mpr ⟨hline, h.nonempty⟩,
    List.forall_mem_cons.mpr ⟨hfits, h.fits⟩, h.full.cons_cons ?_⟩
  rintro first hfirst
  obtain rfl := Option.some.inj hfirst
  exact hfull

/-- No way to cut the words into lines that fit is shorter, even when the lines of that cut begin with
words that a filled line before has taken: no part of it gets beyond the filled line that it ends in. -/
theorem length_le (h : Filled width words lines) (ahead : List String)
    (hcut : cut.flatten = ahead ++ words) (hfits : ∀ part ∈ cut, Fits width part) :
    lines.length ≤ cut.length := by
  induction cut generalizing ahead words lines with
  | nil =>
      obtain ⟨_, rfl⟩ := List.append_eq_nil_iff.mp hcut.symm
      cases lines with
      | nil => exact Nat.le_refl 0
      | cons line rest =>
          have hline := (List.append_eq_nil_iff.mp h.flatten).1
          exact absurd hline (h.nonempty line List.mem_cons_self)
  | cons part cut ih =>
      obtain ⟨hpart, hfits⟩ := List.forall_mem_cons.mp hfits
      cases lines with
      | nil => exact Nat.zero_le _
      | cons line rest =>
          have hrest : Filled width rest.flatten rest :=
            ⟨rfl, fun other hother => h.nonempty other (List.mem_cons_of_mem line hother),
              fun other hother => h.fits other (List.mem_cons_of_mem line hother), h.full.tail⟩
          rw [← h.flatten, List.flatten_cons, List.flatten_cons, ← List.append_assoc] at hcut
          rw [List.length_cons, List.length_cons]
          refine Nat.succ_le_succ ?_
          obtain ⟨left, _, hleft⟩ | ⟨beyond, hbeyond, hleft⟩ := List.append_eq_append_iff.mp hcut
          · exact ih hrest left hleft hfits
          · cases beyond with
            | nil => exact ih hrest [] (by simpa using hleft.symm) hfits
            | cons next beyond =>
                -- the part holds a whole line and the word that had no room on it
                exfalso
                have hline := h.nonempty line List.mem_cons_self
                have hfull : width < (join " " line).length + 1 + next.length := by
                  rw [hleft] at hrest
                  obtain ⟨others, more, rfl⟩ := hrest.head
                  exact h.full.rel next rfl
                have hinfix : line ++ [next] <:+: part :=
                  ⟨ahead, beyond, by rw [hbeyond]; simp⟩
                have hlong := length_join_le_of_infix (by simp) hinfix
                rw [length_join_concat hline] at hlong
                have hmany := hinfix.length_le
                rw [List.length_append, List.length_singleton] at hmany
                have hpos := List.length_pos_iff.mpr hline
                rcases hpart with hpart | hpart <;> omega

end Filled

section

variable {width : Int}

theorem fillLines_of_line {line : List String} (hline : line ≠ []) (hfits : Fits width line)
    (words : List String) :
    Filled width (line ++ words) (fillLines width line (join " " line).length words) := by
  have hfull : line.isEmpty = false := by simpa using hline
  induction words generalizing line with
  | nil =>
      rw [fillLines, hfull, List.append_nil]
      exact .singleton hline hfits
  | cons word words ih =>
      rw [fillLines, hfull, if_neg Bool.false_ne_true]
      dsimp only
      split
      · rename_i hover
        have hrest := @ih [word] (List.cons_ne_nil word []) (.inr rfl) rfl
        rw [join_singleton] at hrest
        exact hrest.cons hline hfits (by push_cast at hover; omega)
      · rename_i hwithin
        have hlength := length_join_concat hline word
        have hroom : Fits width (line ++ [word]) := .inl (by omega)
        have hnext := @ih (line ++ [word]) (by simp) hroom (by simp)
        rwa [hlength, List.append_assoc] at hnext

theorem fillLines_filled (width : Int) (words : List String) :
    Filled width words (fillLines width [] 0 words) := by
  cases words with
  | nil => exact .nil width
  | cons word words =>
      have hword : Fits width [word] := .inr rfl
      have hfilled := fillLines_of_line (List.cons_ne_nil word []) hword words
      rwa [join_singleton] at hfilled

end

/-! ### The words of a comment -/

/-- A text that stays one word when it is written into a comment. -/
structure IsWord (word : String) : Prop where
  nonempty : word ≠ ""
  space : ' ' ∉ word.toList
  lineFeed : '\n' ∉ word.toList

section

variable {lineBreak word text : String} {words : List String} {c : Char}

theorem mem_commentWord (h : c ∈ (commentWord lineBreak word).toList) :
    c ∈ lineBreak.toList ∨ c ∈ word.toList ∧ c ≠ '\n' := by
  rw [commentWord, toList_replace] at h
  refine (mem_replaceList (by decide) h).imp id ?_
  rintro ⟨piece, hpiece, hmem⟩
  have hfeed : c ≠ '\n' := by
    rintro rfl
    exact not_mem_of_mem_splitList (c := '\n') hpiece hmem
  have hunified := mem_of_mem_splitList (by decide) hpiece hmem
  rw [toList_replace] at hunified
  obtain ⟨part, hpart, hmem⟩ :=
    (mem_replaceList (by decide) hunified).resolve_left fun h => hfeed (List.mem_singleton.mp h)
  exact ⟨mem_of_mem_splitList (by decide) hpart hmem, hfeed⟩

theorem mem_commentWord_of_mem (hreturn : c ≠ '\r') (hfeed : c ≠ '\n') (h : c ∈ word.toList) :
    c ∈ (commentWord lineBreak word).toList := by
  rw [commentWord, toList_replace, toList_replace]
  exact mem_replaceList_of_mem (by decide) (by simpa using hfeed)
    (mem_replaceList_of_mem (by decide) (by simp [hreturn, hfeed]) h)

theorem commentWord_ne_empty (hbreak : lineBreak ≠ "") (hword : word ≠ "") :
    commentWord lineBreak word ≠ "" := by
  have hbreak_list : lineBreak.toList ≠ [] := by simpa using hbreak
  have hword_list : word.toList ≠ [] := by simpa using hword
  have hlist : (commentWord lineBreak word).toList ≠ [] := by
    rw [commentWord, toList_replace, toList_replace]
    exact replaceList_ne_nil (by decide) hbreak_list (replaceList_ne_nil (by decide) (by decide) hword_list)
  simpa using hlist

theorem commentWord_self (h : '\n' ∉ word.toList) (lineBreak : String) : commentWord lineBreak word = word := by
  rw [commentWord, replace_of_not_mem (c := '\n') (by decide) h, replace_of_not_mem (c := '\n') (by decide) h]

theorem isWord_commentWord (hbreak : IsWord lineBreak) (hne : word ≠ "") (hspace : ' ' ∉ word.toList) :
    IsWord (commentWord lineBreak word) where
  nonempty := commentWord_ne_empty hbreak.nonempty hne
  space h := (mem_commentWord h).elim hbreak.space fun h => hspace h.1
  lineFeed h := (mem_commentWord h).elim hbreak.lineFeed fun h => h.2 rfl

theorem isWord_of_mem_commentWords (hbreak : IsWord lineBreak) (h : word ∈ commentWords lineBreak text) :
    IsWord word := by
  obtain ⟨piece, hpiece, rfl⟩ := List.mem_map.mp h
  obtain ⟨hpiece, hne⟩ := List.mem_filter.mp hpiece
  exact isWord_commentWord hbreak (of_decide_eq_true hne) (not_mem_of_mem_split rfl hpiece)

theorem exists_mem_commentWords (hblank : isBlank c = false) (h : c ∈ text.toList) (lineBreak : String) :
    ∃ word ∈ commentWords lineBreak text, c ∈ word.toList := by
  have hother : ∀ {d}, isBlank d = true → c ≠ d := by
    rintro d hd rfl
    exact Bool.false_ne_true (hblank.symm.trans hd)
  have hspace : c ∉ " ".toList := by simpa using hother (d := ' ') (by decide)
  obtain ⟨piece, hpiece, hmem⟩ := exists_mem_split (by decide) hspace h
  have hne : piece ≠ "" := by
    rintro rfl
    cases hmem
  refine ⟨commentWord lineBreak piece, List.mem_map.mpr ⟨piece, ?_, rfl⟩,
    mem_commentWord_of_mem (hother (by decide)) (hother (by decide)) hmem⟩
  exact List.mem_filter.mpr ⟨hpiece, decide_eq_true hne⟩

theorem commentWords_join (hne : words ≠ []) (hwords : ∀ word ∈ words, IsWord word) (lineBreak : String) :
    commentWords lineBreak (join " " words) = words := by
  have hsplit : split " " (join " " words) = words :=
    split_join (c := ' ') (by decide) hne fun word hword => (hwords word hword).space
  have hkept : words.filter (· ≠ "") = words :=
    List.filter_eq_self.mpr fun word hword => decide_eq_true (hwords word hword).nonempty
  rw [commentWords, hsplit, hkept]
  exact (List.map_congr_left fun word hword => commentWord_self (hwords word hword).lineFeed _).trans
    (List.map_id words)

theorem hasComment_iff : hasComment (some text) = true ↔ ∃ c ∈ text.toList, isBlank c = false := by
  simp [hasComment, isBlankText]

/-! ### Comments as lines -/

theorem reflowComment_of_isBlankText {comment : Option String} {width : Int}
    (h : ∀ text ∈ comment, isBlankText text = true) : reflowComment comment width lineBreak = [] := by
  have hnone : hasComment comment = false := by
    cases comment with
    | none => rfl
    | some text => exact congrArg (! ·) (h text rfl)
  rw [reflowComment, hnone, if_neg Bool.false_ne_true]

theorem reflowComment_of_hasComment {width : Int} (h : hasComment (some text) = true) :
    reflowComment (some text) width lineBreak =
      (fillLines width [] 0 (commentWords lineBreak text)).map (join " ") := by
  rw [reflowComment, if_pos h]
  rfl

/-- The lines hold the words in order, break them as late as the width allows, and are as few as can be.
The words of a line are its pieces between spaces. -/
structure Wrapped (width : Int) (words lines : List String) : Prop where
  joined : join " " lines = join " " words
  flatten : lines.flatMap (split " ") = words
  nonempty : ∀ line ∈ lines, line ≠ ""
  within : ∀ line ∈ lines, (line.length : Int) ≤ width ∨ split " " line = [line]
  full : lines.IsChain fun line next =>
    ∀ word ∈ (split " " next).head?, width < line.length + 1 + word.length
  fewest : ∀ cut : List (List String), cut.flatten = words → (∀ part ∈ cut, Fits width part) →
    lines.length ≤ cut.length

theorem Filled.wrapped {width : Int} {groups : List (List String)} (h : Filled width words groups)
    (hwords : ∀ word ∈ words, IsWord word) : Wrapped width words (groups.map (join " ")) := by
  have hword : ∀ group ∈ groups, ∀ word ∈ group, IsWord word := fun group hgroup word hmem =>
    hwords word (h.flatten ▸ List.mem_flatten_of_mem hgroup hmem)
  have hsplit : ∀ group ∈ groups, split " " (join " " group) = group := fun group hgroup =>
    split_join (c := ' ') (by decide) (h.nonempty group hgroup) fun word hmem =>
      (hword group hgroup word hmem).space
  refine ⟨by rw [join_map_join " " h.nonempty, h.flatten], ?_, ?_, ?_, ?_, ?_⟩
  · rw [List.flatMap_map, ← h.flatten, List.flatten_eq_flatMap]
    exact List.flatMap_congr hsplit
  · rintro line hline rfl
    obtain ⟨group, hgroup, hempty⟩ := List.mem_map.mp hline
    have hsingle := hsplit group hgroup
    rw [hempty, split_empty (by decide)] at hsingle
    exact (hword group hgroup "" (hsingle ▸ List.mem_singleton_self _)).nonempty rfl
  · intro line hline
    obtain ⟨group, hgroup, rfl⟩ := List.mem_map.mp hline
    refine (h.fits group hgroup).imp id fun hsingle => ?_
    obtain ⟨word, rfl⟩ := List.length_eq_one_iff.mp hsingle
    rw [hsplit _ hgroup, join_singleton]
  · rw [List.isChain_map]
    refine h.full.imp_of_mem_imp fun line next _ hnext hfull => ?_
    rwa [hsplit next hnext]
  · intro cut hcut hfits
    rw [List.length_map]
    exact h.length_le [] hcut hfits

/-- Nothing comes of a comment that is absent or blank. Any other is broken into as few lines as can be,
each of them filled from the left, and its lines are broken in the same places when they are written as
one comment again. -/
theorem reflowComment_wraps (comment : Option String) (width : Int) (hbreak : IsWord lineBreak) :
    ((∀ text ∈ comment, isBlankText text = true) → reflowComment comment width lineBreak = []) ∧
    ∀ text, comment = some text → isBlankText text = false →
      Wrapped width (commentWords lineBreak text) (reflowComment comment width lineBreak) ∧
      reflowComment (some (join " " (reflowComment comment width lineBreak))) width lineBreak =
        reflowComment comment width lineBreak := by
  refine ⟨reflowComment_of_isBlankText, ?_⟩
  rintro text rfl htext
  have hcomment : hasComment (some text) = true := congrArg (! ·) htext
  have hwords : ∀ word ∈ commentWords lineBreak text, IsWord word := fun word =>
    isWord_of_mem_commentWords hbreak
  have hwrapped := (fillLines_filled width (commentWords lineBreak text)).wrapped hwords
  rw [← reflowComment_of_hasComment hcomment] at hwrapped
  refine ⟨hwrapped, ?_⟩
  -- some character is not white space, and it is still there in the lines
  obtain ⟨c, hc, hblank⟩ := hasComment_iff.mp hcomment
  obtain ⟨word, hword, hmem⟩ := exists_mem_commentWords hblank hc lineBreak
  have hagain : hasComment (some (join " " (commentWords lineBreak text))) = true :=
    hasComment_iff.mpr ⟨c, mem_join_of_mem hword hmem, hblank⟩
  rw [hwrapped.joined, reflowComment_of_hasComment hagain,
    commentWords_join (List.ne_nil_of_mem hword) hwords, reflowComment_of_hasComment hcomment]

/-- A line end within a word makes it too long for any width that the other words have room in. -/
theorem reflowComment_wraps_lineEnd :
    IsWord "<p>" ∧ Wrapped 9 ["one", "two<p>three", "four", "five"] ["one", "two<p>three", "four five"] := by
  have hbreak : IsWord "<p>" := ⟨by decide, by decide, by decide⟩
  have hwords : commentWords "<p>" "one  two\r\nthree four five" = ["one", "two<p>three", "four", "five"] := by
    decide +kernel
  have hlines : reflowComment (some "one  two\r\nthree four five") 9 "<p>" =
      ["one", "two<p>three", "four five"] := by
    decide +kernel
  have hwraps := (reflowComment_wraps (some "one  two\r\nthree four five") 9 hbreak).2 _ rfl (by decide)
  rw [hwords, hlines] at hwraps
  exact ⟨hbreak, hwraps.1⟩

end

end Codegen.Model
