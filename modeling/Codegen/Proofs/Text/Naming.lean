import Codegen.Proofs.Text.Words

/-!
Names of several words, in small letters with low lines (snake case) or written together with capitals (camel
case). Each conversion leads to texts that it leaves as they are, and on names of plain words the two undo
each other.
-/

namespace Codegen.Text

/-! Gaps between words: those that are closed or left out come from no change of case. -/

section

variable {isGap : Char → Bool} {c d : Char} {text : List Char}

def nameGapCodes : List Nat := '-'.toNat :: '_'.toNat :: blankCodes

theorem isNameGap_iff : isNameGap c = true ↔ isBlank c = true ∨ c = '-' ∨ c = '_' := by
  simp [isNameGap, isWordGap, or_assoc]

theorem isOnlyOwn_of_isNameGap (h : isNameGap c = true) : isOnlyOwn c = true := by
  rcases isNameGap_iff.mp h with hblank | rfl | rfl
  · exact (isOnlyOwn_and_isSmall_of_isBlank hblank).1
  · exact isOnlyOwn_of_mark (by simp)
  · exact isOnlyOwn_of_mark (by simp)

theorem toNat_mem_nameGapCodes (h : isNameGap c = true) : c.toNat ∈ nameGapCodes := by
  rcases isNameGap_iff.mp h with hblank | rfl | rfl
  · exact List.mem_cons_of_mem _ (List.mem_cons_of_mem _ (toNat_mem_blankCodes hblank))
  · exact List.mem_cons_self
  · exact List.mem_cons_of_mem _ List.mem_cons_self

theorem isNameGap_alphanumeric
    (h : (48 ≤ c.toNat ∧ c.toNat ≤ 57) ∨ (65 ≤ c.toNat ∧ c.toNat ≤ 90) ∨ (97 ≤ c.toNat ∧ c.toNat ≤ 122)) :
    isNameGap c = false := by
  rw [← Bool.not_eq_true]
  intro hgap
  have hcode := toNat_mem_nameGapCodes hgap
  have hhyphen : '-'.toNat = 45 := rfl
  have hline : '_'.toNat = 95 := rfl
  simp only [nameGapCodes, blankCodes, List.mem_cons, List.not_mem_nil, or_false] at hcode
  omega

theorem nameGapCodes_not_upperImages : bitsOfAll [nameGapCodes]
    &&& bitsOfAll (tableImages upperRuns upperExpansions) = 0 := by
  decide +kernel

theorem upperChar_letter (h : isLowerLetter c = true) : ∃ capital,
    upperChar c = [capital] ∧ capital.toNat = c.toNat - 32 ∧ isUpperLetter capital = true := by
  have hrange := isLowerLetter_iff.mp h
  have hcode : (Char.ofNat (c.toNat - 32)).toNat = c.toNat - 32 := toNat_ofNat (.inl (by omega))
  refine ⟨Char.ofNat (c.toNat - 32), ?_, hcode, isUpperLetter_iff.mpr (by omega)⟩
  rw [upperChar, if_pos (by omega), if_pos h]

theorem eq_of_mem_upperChar (hgap : isNameGap d = true) (h : d ∈ upperChar c) : d = c := by
  by_cases hascii : c.toNat < 128
  · cases hlower : isLowerLetter c with
    | false =>
        rw [upperChar, if_pos hascii, if_neg (Bool.eq_false_iff.mp hlower)] at h
        exact List.mem_singleton.mp h
    | true =>
        obtain ⟨capital, hform, _, hupper⟩ := upperChar_letter hlower
        rw [hform, List.mem_singleton] at h
        subst h
        rw [isNameGap_alphanumeric (.inr (.inl (isUpperLetter_iff.mp hupper)))] at hgap
        cases hgap
  · rw [upperChar, if_neg hascii] at h
    rcases mem_tableImages h with ⟨image, himage, hchar⟩ | ⟨_, heq⟩
    · have hcode := toNat_mem_nameGapCodes hgap
      have hzero : d.toNat ≠ 0 := by
        intro hzero
        rw [hzero] at hcode
        exact absurd hcode (by decide)
      rw [eq_code_of_ofNat hchar hzero] at himage
      refine absurd himage (not_mem_of_bitsOfAll nameGapCodes_not_upperImages ?_)
      simpa using hcode
    · exact heq

theorem eq_of_mem_lowerAt (hgap : isNameGap d = true) (h : d ∈ lowerAt [] c []) : d = c := by
  have hmem : d ∈ lowerFrom [] [c] := List.mem_append_left _ h
  exact List.mem_singleton.mp (mem_lowerFrom (isOnlyOwn_of_isNameGap hgap) hmem)

theorem mem_closeGaps (h : c ∈ closeGaps isGap text) : c = '_' ∨ (c ∈ text ∧ isGap c = false) := by
  fun_induction closeGaps isGap text with
  | case1 => cases h
  | case2 only =>
      rw [List.mem_singleton] at h
      split at h
      · exact .inl h
      · rename_i hletter
        subst h
        exact .inr ⟨List.mem_cons_self, Bool.eq_false_iff.mpr hletter⟩
  | case3 first second rest hfirst hsecond ih =>
      exact (ih h).imp id fun hrest => ⟨List.mem_cons_of_mem first hrest.1, hrest.2⟩
  | case4 first second rest hfirst hsecond ih =>
      rcases List.mem_cons.mp h with rfl | h
      · exact .inl rfl
      · exact (ih h).imp id fun hrest => ⟨List.mem_cons_of_mem first hrest.1, hrest.2⟩
  | case5 first second rest hfirst ih =>
      rcases List.mem_cons.mp h with rfl | h
      · exact .inr ⟨List.mem_cons_self, by simpa using hfirst⟩
      · exact (ih h).imp id fun hrest => ⟨List.mem_cons_of_mem first hrest.1, hrest.2⟩

theorem closeGaps_eq_self (h : ∀ c ∈ text, isGap c = false) : closeGaps isGap text = text := by
  fun_induction closeGaps isGap text with
  | case1 => rfl
  | case2 only => rw [if_neg (by simp [h only List.mem_cons_self])]
  | case3 first second rest hfirst hsecond ih => exact absurd hfirst (by simp [h first List.mem_cons_self])
  | case4 first second rest hfirst hsecond ih => exact absurd hfirst (by simp [h first List.mem_cons_self])
  | case5 first second rest hfirst ih => rw [ih (List.forall_mem_cons.mp h).2]

theorem separateCapitals_eq_self (h : ∀ c ∈ text, isUpperLetter c = false) : separateCapitals text = text := by
  fun_induction separateCapitals text with
  | case1 => rfl
  | case2 only => rfl
  | case3 first second rest hbreak ih =>
      have hsecond := h second (List.mem_cons_of_mem first List.mem_cons_self)
      simp [hsecond] at hbreak
  | case4 first second rest hbreak ih => rw [ih (List.forall_mem_cons.mp h).2]

end

/-! Texts that the conversions leave as they are. -/

/-- A text without white space, hyphens and characters that have another small form. -/
structure IsSnakeCase (text : String) : Prop where
  whole : ∀ c ∈ text.toList, isWordGap c = false
  small : ∀ c ∈ text.toList, isSmall c = true

/-- A text without white space, hyphens and low lines, with a small first character. -/
structure IsCamelCase (text : String) : Prop where
  whole : ∀ c ∈ text.toList, isNameGap c = false
  begins : ∀ c ∈ text.toList.head?, isSmall c = true

theorem isSnakeCase_snakeCase (text : String) : IsSnakeCase (snakeCase text) := by
  rw [snakeCase]
  refine ⟨fun c hc => ?_, fun c hc => ?_⟩ <;> rw [String.toList_ofList, snakeCaseList, lowerList] at hc
  · rw [← Bool.not_eq_true]
    intro hgap
    have hown : isOnlyOwn c = true := isOnlyOwn_of_isNameGap (by rw [isNameGap, hgap, Bool.true_or])
    rcases mem_closeGaps (mem_lowerFrom hown hc) with rfl | ⟨_, hother⟩
    · exact absurd hgap (by decide)
    · exact Bool.false_ne_true (hother.symm.trans hgap)
  · exact isSmall_of_mem_lowerFrom hc

theorem IsSnakeCase.snakeCase_eq {text : String} (h : IsSnakeCase text) : snakeCase text = text := by
  have hcapitals : separateCapitals text.toList = text.toList :=
    separateCapitals_eq_self fun c hc => isUpperLetter_of_isSmall (h.small c hc)
  rw [snakeCase, snakeCaseList, hcapitals, closeGaps_eq_self h.whole, lowerList, lowerFrom_of_isSmall h.small,
    String.ofList_toList]

theorem isNameGap_of_mem_form (form : Char → List Char) {c first : Char} {rest : List Char}
    (hform : isNameGap c = true → c ∈ form first → c = first)
    (hpart : ∀ c ∈ first :: rest, isNameGap c = false) (h : c ∈ form first ++ rest) : isNameGap c = false := by
  obtain ⟨hfirst, hrest⟩ := List.forall_mem_cons.mp hpart
  rcases List.mem_append.mp h with hmem | hmem
  · rw [← Bool.not_eq_true]
    intro hgap
    rw [← hform hgap hmem, hgap] at hfirst
    cases hfirst
  · exact hrest c hmem

theorem isCamelCase_camelCase (text : String) : IsCamelCase (camelCase text) := by
  have hparts : ∀ part ∈ runsOutside isNameGap text.toList,
      ∃ first rest, part = first :: rest ∧ ∀ c ∈ first :: rest, isNameGap c = false := by
    intro part hpart
    obtain ⟨hne, hletters⟩ := letters_of_mem_runsOutside hpart
    obtain ⟨first, rest, rfl⟩ := List.exists_cons_of_ne_nil hne
    exact ⟨first, rest, rfl, hletters⟩
  rw [camelCase]
  generalize hcamel : camelCaseList text.toList = camel
  rw [camelCaseList] at hcamel
  cases hruns : runsOutside isNameGap text.toList with
  | nil =>
      rw [hruns] at hcamel
      subst hcamel
      exact ⟨nofun, nofun⟩
  | cons part parts =>
      rw [hruns, List.forall_mem_cons] at hparts
      obtain ⟨⟨first, rest, rfl, hletters⟩, hothers⟩ := hparts
      rw [hruns] at hcamel
      dsimp only at hcamel
      subst hcamel
      refine ⟨fun c hc => ?_, fun c hc => ?_⟩ <;> rw [String.toList_ofList] at hc
      · rcases List.mem_append.mp hc with hc | hc
        · rw [lowerFirstList] at hc
          exact isNameGap_of_mem_form (fun c => lowerAt [] c []) eq_of_mem_lowerAt hletters hc
        · obtain ⟨other, hother, hc⟩ := List.mem_flatMap.mp hc
          obtain ⟨next, following, rfl, hletters⟩ := hothers other hother
          exact isNameGap_of_mem_form upperChar eq_of_mem_upperChar hletters hc
      · rw [lowerFirstList, List.append_assoc,
          List.head?_append_of_ne_nil _ (lowerAt_ne_nil [] first [])] at hc
        exact isSmall_of_mem_lowerAt (List.mem_of_mem_head? hc)

theorem IsCamelCase.camelCase_eq {text : String} (h : IsCamelCase text) : camelCase text = text := by
  cases htext : text.toList with
  | nil =>
      have hempty : text = "" := by simpa using htext
      rw [hempty]
      rfl
  | cons c rest =>
      have hsmall : isSmall c = true := h.begins c (by rw [htext]; rfl)
      have hruns : runsOutside isNameGap text.toList = [text.toList] :=
        runsOutside_of_letters (by simp [htext]) h.whole
      rw [camelCase, camelCaseList, hruns, htext]
      dsimp only
      rw [lowerFirstList, lowerAt_of_isSmall hsmall, List.flatMap_nil, List.append_nil, List.singleton_append,
        ← htext, String.ofList_toList]

theorem moduleName_eq_snakeCase {name : String} (h : isIdentifier name = true) :
    moduleName name = snakeCase name := by
  have hwhole : ∀ c ∈ separateCapitals name.toList, isWordGap c = false := by
    intro c hc
    rcases mem_separateCapitals hc with rfl | hc
    · decide
    · have hblank := isUnbroken_of_isIdentifier h c hc
      have hhyphen : c ≠ '-' := by
        rintro rfl
        exact not_mem_of_isIdentifier (by decide) (by decide) h hc
      simp [isWordGap, hblank, hhyphen]
  rw [moduleName, snakeCase, snakeCaseList, closeGaps_eq_self hwhole]

/-! Names of plain words. -/

def isPlain (c : Char) : Bool := isLowerLetter c || isDigit c

/-- A word of a name: small letters and digits, two of them at least, of which the first is a letter. -/
structure IsNameWord (word : String) : Prop where
  long : 2 ≤ word.length
  plain : ∀ c ∈ word.toList, isPlain c = true
  begins : ∀ c ∈ word.toList.head?, isLowerLetter c = true

instance (word : String) : Decidable (IsNameWord word) :=
  decidable_of_iff (2 ≤ word.length ∧ word.toList.all isPlain = true ∧ word.toList.head?.all isLowerLetter = true)
    ⟨fun ⟨hlong, hplain, hbegins⟩ =>
      ⟨hlong, List.all_eq_true.mp hplain, (Option.all_eq_true isLowerLetter _).mp hbegins⟩,
      fun ⟨hlong, hplain, hbegins⟩ =>
        ⟨hlong, List.all_eq_true.mpr hplain, (Option.all_eq_true isLowerLetter _).mpr hbegins⟩⟩

theorem IsNameWord.exists_cons {word : String} (h : IsNameWord word) : ∃ first rest,
    word.toList = first :: rest ∧ isLowerLetter first = true ∧ rest ≠ [] ∧ ∀ c ∈ rest, isPlain c = true := by
  obtain ⟨hlong, hplain, hbegins⟩ := h
  rw [← String.length_toList] at hlong
  cases htext : word.toList with
  | nil =>
      rw [htext] at hlong
      cases hlong
  | cons first rest =>
      rw [htext] at hlong hplain hbegins
      have hrest : rest ≠ [] := by
        rintro rfl
        exact absurd hlong (Nat.not_succ_le_self 1)
      exact ⟨first, rest, rfl, hbegins first rfl, hrest, (List.forall_mem_cons.mp hplain).2⟩

theorem isPlain_iff {c : Char} :
    isPlain c = true ↔ (97 ≤ c.toNat ∧ c.toNat ≤ 122) ∨ (48 ≤ c.toNat ∧ c.toNat ≤ 57) := by
  rw [isPlain, Bool.or_eq_true, isLowerLetter_iff, isDigit, Bool.and_eq_true, decide_eq_true_eq,
    decide_eq_true_eq]
  exact Iff.rfl

/-- The character may stand in a name, where it has the other as its small form. -/
structure Lowers (c small : Char) : Prop where
  ascii : c.toNat < 128
  letter : isNameGap c = false
  small : lowerChar c = [small]

section

variable {c d : Char} {text rest : List Char}

theorem isUpperLetter_of_isPlain (h : isPlain c = true) : isUpperLetter c = false := by
  rw [isPlain_iff] at h
  rw [← Bool.not_eq_true, isUpperLetter_iff]
  omega

theorem lowers_of_isPlain (h : isPlain c = true) : Lowers c c := by
  have hcode := isPlain_iff.mp h
  have hascii : c.toNat < 128 := by omega
  exact ⟨hascii, isNameGap_alphanumeric (by omega),
    isSmall_iff.mp (isSmall_of_ascii hascii (isUpperLetter_of_isPlain h))⟩

theorem exists_capital (h : isLowerLetter c = true) :
    ∃ capital, upperChar c = [capital] ∧ isUpperLetter capital = true ∧ Lowers capital c := by
  have hrange := isLowerLetter_iff.mp h
  obtain ⟨capital, hform, hcode, hupper⟩ := upperChar_letter h
  refine ⟨capital, hform, hupper, by omega, isNameGap_alphanumeric (by omega), ?_⟩
  have hback : capital.toNat + 32 = c.toNat := by omega
  rw [lowerChar_capital hupper, hback, Char.ofNat_toNat]

/-! Where the low lines come. -/

/-- A low line comes between a text and the capital behind it, if the text ends with a small letter or a
digit. -/
theorem separateCapitals_append (htext : ∃ c ∈ text.getLast?, isPlain c = true)
    (hrest : ∃ d ∈ rest.head?, isUpperLetter d = true) :
    separateCapitals (text ++ rest) = separateCapitals text ++ '_' :: separateCapitals rest := by
  obtain ⟨d, hd, hupper⟩ := hrest
  obtain ⟨others, rfl⟩ := List.head?_eq_some_iff.mp hd
  induction text with
  | nil =>
      obtain ⟨c, hc, _⟩ := htext
      cases hc
  | cons c text ih =>
      cases text with
      | nil =>
          obtain ⟨last, hlast, hplain⟩ := htext
          obtain rfl : c = last := Option.some.inj hlast
          have hbreak : ((isLowerLetter c || isDigit c) && isUpperLetter d) = true := by
            rw [← isPlain, hplain, hupper]
            rfl
          exact if_pos hbreak
      | cons next text =>
          have hrest := ih (by simpa using htext)
          simp only [List.cons_append] at hrest ⊢
          rw [separateCapitals, separateCapitals, hrest]
          split <;> rfl

/-- A way to write a word within a name, with or without a capital. -/
structure Spells (word part : List Char) : Prop where
  whole : separateCapitals part = part
  ends : ∃ c ∈ part.getLast?, isPlain c = true
  letters : ∀ c ∈ part, c.toNat < 128 ∧ isNameGap c = false
  small : part.flatMap lowerChar = word

theorem spells_cons (hfirst : Lowers c d) (hne : rest ≠ []) (hrest : ∀ c ∈ rest, isPlain c = true) :
    Spells (d :: rest) (c :: rest) := by
  obtain ⟨second, others, rfl⟩ := List.exists_cons_of_ne_nil hne
  have hcapitals : ∀ e ∈ second :: others, isUpperLetter e = false := fun e he =>
    isUpperLetter_of_isPlain (hrest e he)
  have hlowers : ∀ e ∈ second :: others, Lowers e e := fun e he => lowers_of_isPlain (hrest e he)
  refine ⟨?_, ?_, ?_, ?_⟩
  · have hkept : ((isLowerLetter c || isDigit c) && isUpperLetter second) = false := by
      rw [hcapitals second List.mem_cons_self, Bool.and_false]
    rw [separateCapitals, if_neg (Bool.eq_false_iff.mp hkept), separateCapitals_eq_self hcapitals]
  · have hlast : (c :: second :: others).getLast? = some ((second :: others).getLast hne) := by
      rw [List.getLast?_cons_cons, List.getLast?_eq_some_getLast hne]
    exact ⟨_, hlast, hrest _ (List.getLast_mem hne)⟩
  · exact List.forall_mem_cons.mpr ⟨⟨hfirst.ascii, hfirst.letter⟩,
      fun e he => ⟨(hlowers e he).ascii, (hlowers e he).letter⟩⟩
  · rw [List.flatMap_cons, hfirst.small, ← lowerFrom_of_ascii (fun e he => (hlowers e he).ascii) [],
      lowerFrom_of_isSmall fun e he => isSmall_iff.mpr (hlowers e he).small]
    rfl

namespace IsNameWord

variable {word : String}

theorem spells (h : IsNameWord word) : Spells word.toList word.toList := by
  obtain ⟨first, rest, htext, hfirst, hne, hrest⟩ := h.exists_cons
  rw [htext]
  exact spells_cons (lowers_of_isPlain (by rw [isPlain, hfirst, Bool.true_or])) hne hrest

theorem spells_capital (h : IsNameWord word) : Spells word.toList (upperFirstList word.toList) ∧
    ∃ c ∈ (upperFirstList word.toList).head?, isUpperLetter c = true := by
  obtain ⟨first, rest, htext, hfirst, hne, hrest⟩ := h.exists_cons
  obtain ⟨capital, hform, hupper, hlowers⟩ := exists_capital hfirst
  rw [htext, upperFirstList, hform, List.singleton_append]
  exact ⟨spells_cons hlowers hne hrest, capital, rfl, hupper⟩

end IsNameWord

theorem separateCapitals_flatten {word part : List Char} {parts : List (List Char)} (hpart : Spells word part)
    (hparts : ∀ own ∈ parts, (∃ word, Spells word own) ∧ ∃ c ∈ own.head?, isUpperLetter c = true) :
    separateCapitals (part ++ parts.flatten) = joinList ['_'] (part :: parts) := by
  induction parts generalizing word part with
  | nil => rw [List.flatten_nil, List.append_nil, hpart.whole, joinList]
  | cons next others ih =>
      obtain ⟨⟨⟨following, hnext⟩, hcapital⟩, hothers⟩ := List.forall_mem_cons.mp hparts
      have hhead : ∃ c ∈ (next ++ others.flatten).head?, isUpperLetter c = true := by
        obtain ⟨c, hc, hupper⟩ := hcapital
        exact ⟨c, by simp [Option.mem_def.mp hc], hupper⟩
      rw [List.flatten_cons, separateCapitals_append hpart.ends hhead, hpart.whole, ih hnext hothers, joinList,
        List.append_assoc, List.singleton_append]

theorem runsOutside_joinList {isGap : Char → Bool} {mark : Char} (hmark : isGap mark = true)
    {parts : List (List Char)} (hparts : ∀ own ∈ parts, own ≠ [] ∧ ∀ c ∈ own, isGap c = false) :
    runsOutside isGap (joinList [mark] parts) = parts := by
  induction parts with
  | nil => rfl
  | cons own rest ih =>
      obtain ⟨⟨hne, hletters⟩, hrest⟩ := List.forall_mem_cons.mp hparts
      cases rest with
      | nil => exact runsOutside_of_letters hne hletters
      | cons next rest =>
          rw [joinList, List.append_assoc, List.singleton_append, runsOutside_append_gap hmark,
            runsOutside_of_letters hne hletters, ih hrest, List.singleton_append]

end

section

variable {word : String} {words : List String}

theorem toList_join_upperFirst (word : String) (words : List String) :
    (join "" (word :: words.map upperFirst)).toList =
      word.toList ++ (words.map fun own => upperFirstList own.toList).flatten := by
  rw [join, String.toList_ofList, String.toList_empty, joinList_nil, List.map_cons, List.flatten_cons,
    List.map_map]
  simp only [Function.comp_def, upperFirst, String.toList_ofList]

variable (hwords : ∀ own ∈ word :: words, IsNameWord own)
include hwords

theorem camelCase_join : camelCase (join "_" (word :: words)) = join "" (word :: words.map upperFirst) := by
  have hparts : ∀ own ∈ (word :: words).map String.toList, own ≠ [] ∧ ∀ c ∈ own, isNameGap c = false := by
    rw [List.forall_mem_map]
    intro own hown
    obtain ⟨first, rest, htext, -⟩ := (hwords own hown).exists_cons
    exact ⟨by simp [htext], fun c hc => ((hwords own hown).spells.letters c hc).2⟩
  have hfirst : lowerFirstList word.toList = word.toList := by
    have hword := hwords word List.mem_cons_self
    obtain ⟨first, rest, htext, -⟩ := hword.exists_cons
    have hlowers := lowers_of_isPlain (hword.plain first (by simp [htext]))
    rw [htext, lowerFirstList, lowerAt_of_isSmall (isSmall_iff.mpr hlowers.small), List.singleton_append]
  have hmark : isNameGap '_' = true := by decide
  rw [camelCase, camelCaseList, join, String.toList_ofList, show "_".toList = ['_'] from rfl,
    runsOutside_joinList hmark hparts, List.map_cons]
  dsimp only
  rw [hfirst, ← String.toList_inj, String.toList_ofList, toList_join_upperFirst, List.flatMap_def, List.map_map]
  rfl

theorem snakeCase_join_upperFirst :
    snakeCase (join "" (word :: words.map upperFirst)) = join "_" (word :: words) := by
  obtain ⟨hword, hwords⟩ := List.forall_mem_cons.mp hwords
  -- The low lines are put in before anything becomes small, so the parts still have their capitals.
  let parts := words.map fun own => upperFirstList own.toList
  have hparts : ∀ own ∈ parts, (∃ word, Spells word own) ∧ ∃ c ∈ own.head?, isUpperLetter c = true := by
    rw [List.forall_mem_map]
    intro own hown
    obtain ⟨hspells, hcapital⟩ := (hwords own hown).spells_capital
    exact ⟨⟨_, hspells⟩, hcapital⟩
  have hletters : ∀ c ∈ joinList ['_'] (word.toList :: parts), c.toNat < 128 ∧ isWordGap c = false := by
    intro c hc
    rcases mem_joinList hc with hmark | ⟨own, hown, hmem⟩
    · rw [List.mem_singleton.mp hmark]
      decide
    · obtain ⟨spelt, hspells⟩ : ∃ word, Spells word own := by
        rcases List.mem_cons.mp hown with rfl | hown
        · exact ⟨_, hword.spells⟩
        · exact (hparts own hown).1
      obtain ⟨hascii, hletter⟩ := hspells.letters c hmem
      exact ⟨hascii, (Bool.or_eq_false_iff.mp hletter).1⟩
  have hsmall : parts.map (List.flatMap lowerChar) = words.map String.toList := by
    rw [List.map_map]
    exact List.map_congr_left fun own hown => (hwords own hown).spells_capital.1.small
  rw [snakeCase, snakeCaseList, toList_join_upperFirst, separateCapitals_flatten hword.spells hparts,
    closeGaps_eq_self fun c hc => (hletters c hc).2, lowerList,
    lowerFrom_of_ascii fun c hc => (hletters c hc).1, flatMap_joinList, List.map_cons, hword.spells.small, hsmall]
  rfl

end

end Codegen.Text
