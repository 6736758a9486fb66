import Codegen.Proofs.Text.Character
import Codegen.Proofs.Text.Splitting
import Mathlib.Data.List.Basic

/-! The words of a text: none of them holds a blank, and a blank between two texts keeps their words
apart. -/

namespace Codegen.Text

/-- A text without white space. -/
def IsUnbroken (text : String) : Prop := ∀ c ∈ text.toList, isBlank c = false

instance (text : String) : Decidable (IsUnbroken text) :=
  decidable_of_iff (text.toList.any isBlank = false) (by simp [IsUnbroken])

theorem isUnbroken_append {first second : String} :
    IsUnbroken (first ++ second) ↔ IsUnbroken first ∧ IsUnbroken second := by
  simp only [IsUnbroken, String.toList_append, List.mem_append, or_imp, forall_and]

/-! The runs of characters between gaps, of which the words of a text are an instance. -/

section

variable {isGap : Char → Bool} {b c : Char} {text rest run : List Char}

theorem runsOutside_cons_gap (hgap : isGap b = true) (rest : List Char) :
    runsOutside isGap (b :: rest) = runsOutside isGap rest := by
  rw [runsOutside.eq_def]
  exact if_pos hgap

theorem runsOutside_cons (hletter : isGap c = false) (text : List Char) :
    runsOutside isGap (c :: text) = match text, runsOutside isGap text with
      | d :: _, run :: rest => if isGap d then [c] :: run :: rest else (c :: run) :: rest
      | _, rest => [c] :: rest := by
  rw [runsOutside.eq_def]
  exact if_neg (Bool.eq_false_iff.mp hletter)

theorem runsOutside_ne_nil (hletter : isGap c = false) (text : List Char) :
    runsOutside isGap (c :: text) ≠ [] := by
  rw [runsOutside_cons hletter]
  split
  · split <;> exact List.cons_ne_nil _ _
  · exact List.cons_ne_nil _ _

theorem runsOutside_append_gap (hgap : isGap b = true) (text rest : List Char) :
    runsOutside isGap (text ++ b :: rest) = runsOutside isGap text ++ runsOutside isGap rest := by
  induction text with
  | nil => exact runsOutside_cons_gap hgap rest
  | cons c text ih =>
      rw [List.cons_append]
      cases hletter : isGap c with
      | true => rw [runsOutside_cons_gap hletter, runsOutside_cons_gap hletter, ih]
      | false =>
          rw [runsOutside_cons hletter, runsOutside_cons hletter, ih]
          cases text with
          | nil =>
              rw [List.nil_append, show runsOutside isGap [] = [] from rfl, List.nil_append]
              cases runsOutside isGap rest with
              | nil => rfl
              | cons run others => exact if_pos hgap
          | cons d text =>
              rw [List.cons_append]
              cases hruns : runsOutside isGap (d :: text) with
              | cons run others =>
                  dsimp only [List.cons_append]
                  by_cases hd : isGap d = true
                  · rw [if_pos hd, if_pos hd, List.cons_append, List.cons_append]
                  · rw [if_neg hd, if_neg hd, List.cons_append]
              | nil =>
                  -- only a gap begins a text without runs
                  have hd : isGap d = true := by
                    rw [← Bool.not_eq_false]
                    exact fun hletter => runsOutside_ne_nil hletter text hruns
                  cases runsOutside isGap rest with
                  | nil => rfl
                  | cons run others => exact if_pos hd

theorem runsOutside_of_letters (hne : run ≠ []) (hletters : ∀ c ∈ run, isGap c = false) :
    runsOutside isGap run = [run] := by
  induction run with
  | nil => exact absurd rfl hne
  | cons c run ih =>
      obtain ⟨hletter, hrest⟩ := List.forall_mem_cons.mp hletters
      rw [runsOutside_cons hletter]
      cases run with
      | nil => rfl
      | cons d run =>
          rw [ih (List.cons_ne_nil d run) hrest]
          exact if_neg (Bool.eq_false_iff.mp (hrest d List.mem_cons_self))

theorem letters_of_mem_runsOutside (h : run ∈ runsOutside isGap text) :
    run ≠ [] ∧ ∀ c ∈ run, isGap c = false := by
  induction text generalizing run with
  | nil => cases h
  | cons c text ih =>
      cases hletter : isGap c with
      | true => exact ih (runsOutside_cons_gap hletter text ▸ h)
      | false =>
          have hown : [c] ≠ [] ∧ ∀ d ∈ [c], isGap d = false := by simpa using hletter
          rw [runsOutside_cons hletter] at h
          split at h
          · rename_i first others hruns
            obtain ⟨_, hfirst⟩ := ih (hruns ▸ List.mem_cons_self)
            split at h
            · rcases List.mem_cons.mp h with rfl | h
              · exact hown
              · exact ih (hruns ▸ h)
            · rcases List.mem_cons.mp h with rfl | h
              · exact ⟨List.cons_ne_nil c first, List.forall_mem_cons.mpr ⟨hletter, hfirst⟩⟩
              · exact ih (hruns ▸ List.mem_cons_of_mem first h)
          · rcases List.mem_cons.mp h with rfl | h
            · exact hown
            · exact ih h

theorem wordsList_eq_runsOutside (text : List Char) : wordsList text = runsOutside isBlank text := by
  induction text with
  | nil => rfl
  | cons c text ih =>
      cases hblank : isBlank c with
      | true =>
          rw [runsOutside_cons_gap hblank, ← ih]
          exact if_pos hblank
      | false =>
          rw [runsOutside_cons hblank, ← ih]
          exact if_neg (Bool.eq_false_iff.mp hblank)

theorem words_eq_runsOutside (text : String) :
    words text = (runsOutside isBlank text.toList).map String.ofList := by
  rw [words, wordsList_eq_runsOutside]

end

theorem words_append_blank {mark : String} {b : Char} (hmark : mark.toList = [b]) (hblank : isBlank b = true)
    (first second : String) : words (first ++ mark ++ second) = words first ++ words second := by
  simp only [words_eq_runsOutside]
  rw [String.toList_append, String.toList_append, hmark, List.append_assoc, List.singleton_append,
    runsOutside_append_gap hblank, List.map_append]

theorem words_of_isUnbroken {word : String} (hne : word ≠ "") (h : IsUnbroken word) : words word = [word] := by
  have hlist : word.toList ≠ [] := by simpa using hne
  rw [words_eq_runsOutside, runsOutside_of_letters hlist h, List.map_singleton, String.ofList_toList]

/-! The words of a text, told by where they stand in it. -/

/-- The text is made of the words in this order, with white space between them and perhaps around
them. -/
inductive Spaced : List String → String → Prop
  | blank {gap : String} (hgap : isBlankText gap = true) : Spaced [] gap
  | word {gap word rest : String} {words : List String} (hgap : isBlankText gap = true) (hne : word ≠ "")
      (hword : IsUnbroken word) (hrest : Spaced words rest)
      (hbreak : ∀ c ∈ rest.toList.head?, isBlank c = true) : Spaced (word :: words) (gap ++ word ++ rest)

namespace Spaced

variable {words : List String} {gap text word : String} {c : Char}

theorem isBlankText_empty : isBlankText "" = true := rfl

theorem blank_append (h : Spaced words text) (hgap : isBlankText gap = true) :
    Spaced words (gap ++ text) := by
  have hboth : ∀ {own : String}, isBlankText own = true → isBlankText (gap ++ own) = true := by
    intro own hown
    rw [isBlankText, String.toList_append, List.all_append, Bool.and_eq_true]
    exact ⟨hgap, hown⟩
  cases h with
  | blank hown => exact .blank (hboth hown)
  | word hown hne hword hrest hbreak =>
      rw [← String.append_assoc, ← String.append_assoc]
      exact .word (hboth hown) hne hword hrest hbreak

theorem exists_letter_append (h : Spaced words text) (hletter : isBlank c = false) :
    ∃ words, Spaced words (String.ofList [c] ++ text) := by
  have hown : IsUnbroken (String.ofList [c]) := by
    rw [IsUnbroken, String.toList_ofList]
    simpa using hletter
  by_cases hbreak : ∀ d ∈ text.toList.head?, isBlank d = true
  · refine ⟨String.ofList [c] :: words, ?_⟩
    have hspaced := word isBlankText_empty (by simp) hown h hbreak
    rwa [String.empty_append] at hspaced
  · cases h with
    | blank hgap =>
        refine absurd (fun d hd => ?_) hbreak
        exact List.all_eq_true.mp hgap d (List.mem_of_mem_head? hd)
    | @word gap first rest others hgap hne hword hrest hafter =>
        -- what stands in front of the word is empty, or else the text began with a blank
        have hempty : gap = "" := by
          by_contra hgap_ne
          refine hbreak fun d hd => ?_
          have hgap_list : gap.toList ≠ [] := by simpa using hgap_ne
          rw [String.append_assoc, String.toList_append, List.head?_append_of_ne_nil _ hgap_list] at hd
          exact List.all_eq_true.mp hgap d (List.mem_of_mem_head? hd)
        subst hempty
        refine ⟨(String.ofList [c] ++ first) :: others, ?_⟩
        have hspaced := word isBlankText_empty (by simp) (isUnbroken_append.mpr ⟨hown, hword⟩) hrest hafter
        rwa [String.empty_append, String.append_assoc] at hspaced

end Spaced

theorem exists_spaced (text : String) : ∃ words, Spaced words text := by
  suffices hlist : ∀ chars : List Char, ∃ words, Spaced words (String.ofList chars) by
    simpa using hlist text.toList
  intro chars
  induction chars with
  | nil => exact ⟨[], .blank rfl⟩
  | cons c chars ih =>
      obtain ⟨words, hspaced⟩ := ih
      rw [← List.singleton_append, String.ofList_append]
      cases hletter : isBlank c with
      | true => exact ⟨words, hspaced.blank_append (by simpa [isBlankText] using hletter)⟩
      | false => exact hspaced.exists_letter_append hletter

theorem words_blank_append {gap : String} (hgap : isBlankText gap = true) (text : String) :
    words (gap ++ text) = words text := by
  suffices hlist : runsOutside isBlank (gap.toList ++ text.toList) = runsOutside isBlank text.toList by
    rw [words_eq_runsOutside, String.toList_append, hlist, words_eq_runsOutside]
  rw [isBlankText] at hgap
  generalize gap.toList = chars at hgap
  induction chars with
  | nil => rfl
  | cons c chars ih =>
      rw [List.all_cons, Bool.and_eq_true] at hgap
      rw [List.cons_append, runsOutside_cons_gap hgap.1, ih hgap.2]

theorem words_of_isBlankText {text : String} (h : isBlankText text = true) : words text = [] := by
  rw [← String.append_empty (s := text), words_blank_append h]
  rfl

theorem words_word_append {word rest : String} (hne : word ≠ "") (hword : IsUnbroken word)
    (hbreak : ∀ c ∈ rest.toList.head?, isBlank c = true) : words (word ++ rest) = word :: words rest := by
  cases hrest : rest.toList with
  | nil =>
      have hempty : rest = "" := by simpa using hrest
      rw [hempty, String.append_empty, words_of_isUnbroken hne hword]
      rfl
  | cons b more =>
      have hblank : isBlank b = true := hbreak b (by rw [hrest]; rfl)
      have hlist : runsOutside isBlank word.toList = [word.toList] :=
        runsOutside_of_letters (by simpa using hne) hword
      rw [words_eq_runsOutside, String.toList_append, hrest, runsOutside_append_gap hblank, hlist,
        words_eq_runsOutside, hrest, runsOutside_cons_gap hblank]
      simp

theorem words_eq_iff {text : String} {found : List String} : words text = found ↔ Spaced found text := by
  have hsound : ∀ {own : List String}, Spaced own text → words text = own := by
    intro own h
    induction h with
    | blank hgap => exact words_of_isBlankText hgap
    | word hgap hne hword _ hbreak ih =>
        rw [String.append_assoc, words_blank_append hgap, words_word_append hne hword hbreak, ih]
  refine ⟨?_, hsound⟩
  rintro rfl
  obtain ⟨own, hown⟩ := exists_spaced text
  exact (hsound hown).symm ▸ hown

/-! The blanks are few enough to be checked one by one. -/

def blankCodes : List Nat :=
  [9, 10, 11, 12, 13, 28, 29, 30, 31, 32, 0x85, 0xA0, 0x1680, 0x2000, 0x2001, 0x2002, 0x2003, 0x2004, 0x2005,
   0x2006, 0x2007, 0x2008, 0x2009, 0x200A, 0x2028, 0x2029, 0x202F, 0x205F, 0x3000]

theorem toNat_mem_blankCodes {c : Char} (h : isBlank c = true) : c.toNat ∈ blankCodes := by
  simp only [isBlank, Bool.or_eq_true, Bool.and_eq_true, decide_eq_true_eq, beq_iff_eq] at h
  simp only [blankCodes, List.mem_cons, List.not_mem_nil, or_false]
  omega

theorem of_isBlank {P : Char → Prop} (hcodes : ∀ code ∈ blankCodes, P (Char.ofNat code)) {c : Char}
    (h : isBlank c = true) : P c :=
  Char.ofNat_toNat c ▸ hcodes _ (toNat_mem_blankCodes h)

/-- The case of letters leaves a blank alone: it has no other form and is in the form of no other character. -/
theorem isOnlyOwn_and_isSmall_of_isBlank {c : Char} (h : isBlank c = true) : isOnlyOwn c = true ∧ isSmall c = true :=
  of_isBlank (P := fun c => isOnlyOwn c = true ∧ isSmall c = true) (by decide +kernel) h

theorem mem_lowerFrom_of_isBlank {b : Char} (hblank : isBlank b = true) {before text : List Char}
    (h : b ∈ text) : b ∈ lowerFrom before text := by
  induction text generalizing before with
  | nil => cases h
  | cons c text ih =>
      rw [lowerFrom]
      rcases List.mem_cons.mp h with rfl | h
      · refine List.mem_append_left _ ?_
        rw [lowerAt_of_isSmall (isOnlyOwn_and_isSmall_of_isBlank hblank).2]
        exact List.mem_singleton_self b
      · exact List.mem_append_right _ (ih h)

theorem isUnbroken_of_lower {text : String} (h : IsUnbroken (lower text)) : IsUnbroken text := by
  intro c hc
  rw [← Bool.not_eq_true]
  intro hblank
  have hmem : c ∈ (lower text).toList := by
    rw [lower, String.toList_ofList]
    exact mem_lowerFrom_of_isBlank hblank hc
  exact Bool.false_ne_true ((h c hmem).symm.trans hblank)

/-! Line breaks. -/

theorem unifyLinesList_eq_self {text : List Char} (h : '\r' ∉ text) : unifyLinesList text = text := by
  induction text with
  | nil => rfl
  | cons c rest ih =>
      obtain ⟨hne, hrest⟩ := not_or.mp fun hmem => h (List.mem_cons.mpr hmem)
      rw [unifyLinesList, if_neg (Ne.symm hne), ih hrest]
      exact fun _ heq _ => hne heq.symm

theorem unifyLines_eq_self {text : String} (h : '\r' ∉ text.toList) : unifyLines text = text := by
  rw [unifyLines, unifyLinesList_eq_self h, String.ofList_toList]

/-! Names have no white space. -/

theorem isUnbroken_of_isIdentifier {s : String} (h : isIdentifier s = true) : IsUnbroken s := by
  intro c hmem
  rw [← Bool.not_eq_true]
  intro hblank
  have hcontinue : isIdentifierContinue c = false :=
    of_isBlank (P := fun c => isIdentifierContinue c = false) (by decide +kernel) hblank
  have hstart : isIdentifierStart c = false := by
    rw [← Bool.not_eq_true] at hcontinue ⊢
    exact fun hstart => hcontinue (isIdentifierContinue_of_start hstart)
  exact not_mem_of_isIdentifier hstart hcontinue h hmem

end Codegen.Text
