import Codegen.Text.Identifier
import Codegen.Text.Naming
import Mathlib.Data.Nat.Bitwise
import Mathlib.Tactic.Common

/-! Which characters stand in an identifier, and which come into a text that is written in small letters:
beyond ASCII the tables tell, and a character that is no letter comes from itself alone. What is written in small
letters once stays as it is when it is written so again. -/

namespace Codegen.Text

theorem ne_empty_of_isIdentifier {s : String} (h : isIdentifier s = true) : s ≠ "" := by
  rintro rfl
  exact absurd h (by decide)

theorem not_mem_of_isIdentifier {c : Char} (hstart : isIdentifierStart c = false)
    (hcontinue : isIdentifierContinue c = false) {s : String} (h : isIdentifier s = true) :
    c ∉ s.toList := by
  rw [isIdentifier] at h
  cases htext : s.toList with
  | nil => exact List.not_mem_nil
  | cons first others =>
      rw [htext, isIdentifierList, Bool.and_eq_true, List.all_eq_true] at h
      rintro hmem
      rcases List.mem_cons.mp hmem with rfl | hothers
      · exact absurd (hstart.symm.trans h.1) (by decide)
      · exact absurd (hcontinue.symm.trans (h.2 c hothers)) (by decide)

theorem slash_not_mem_of_isIdentifier {s : String} (h : isIdentifier s = true) : '/' ∉ s.toList :=
  not_mem_of_isIdentifier (by decide) (by decide) h

theorem dot_not_mem_of_isIdentifier {s : String} (h : isIdentifier s = true) : '.' ∉ s.toList :=
  not_mem_of_isIdentifier (by decide) (by decide) h

/-! What may begin an identifier may go on in it. -/

/-- Whether sorted ranges lie within others: those that one of the others holds are passed over. -/
def rangesWithin (outer inner : List (Nat × Nat)) : Bool :=
  (outer.foldl (fun left range => left.dropWhile fun (first, last) => range.1 ≤ first && last ≤ range.2)
    inner).isEmpty

theorem inRanges_of_rangesWithin {outer inner : List (Nat × Nat)} (h : rangesWithin outer inner = true) {c : Char}
    (hc : inRanges inner c = true) : inRanges outer c = true := by
  rw [rangesWithin] at h
  induction outer generalizing inner with
  | nil =>
      rw [List.foldl_nil, List.isEmpty_iff] at h
      rw [h] at hc
      cases hc
  | cons range rest ih =>
      let held (p : Nat × Nat) : Bool := range.1 ≤ p.1 && p.2 ≤ range.2
      rw [← List.takeWhile_append_dropWhile (p := held) (l := inner), inRanges, List.any_append,
        Bool.or_eq_true] at hc
      rw [inRanges, List.any_cons, Bool.or_eq_true]
      refine hc.imp (fun htaken => ?_) (ih h)
      obtain ⟨p, hp, hin⟩ := List.any_eq_true.mp htaken
      have hheld := List.all_eq_true.mp List.all_takeWhile p hp
      simp only [held, Bool.and_eq_true, decide_eq_true_eq] at hin hheld ⊢
      omega

theorem rangesWithin_identifiers : rangesWithin identifierContinueRanges identifierStartRanges = true := by
  decide +kernel

theorem isIdentifierContinue_of_start {c : Char} (h : isIdentifierStart c = true) :
    isIdentifierContinue c = true := by
  rw [isIdentifierStart] at h
  rw [isIdentifierContinue]
  split at h <;> rename_i hcode
  · rw [if_pos hcode]
    rw [Bool.or_eq_true] at h ⊢
    exact h.imp_left fun hletter => by rw [hletter, Bool.true_or]
  · rw [if_neg hcode]
    exact inRanges_of_rangesWithin rangesWithin_identifiers h

/-! What the tables of case lead to. -/

namespace CaseRun

variable {run : CaseRun} {code image : Nat}

def codes (run : CaseRun) : List Nat :=
  List.range' run.first ((run.last - run.first) / run.step + 1) run.step

def images (run : CaseRun) : List Nat := run.codes.map fun code : Nat => (code + run.shift).toNat

theorem mem_codes (h : run.image? code = some image) : code ∈ run.codes := by
  simp only [image?, Option.ite_none_right_eq_some, Bool.and_eq_true, decide_eq_true_eq, beq_iff_eq] at h
  obtain ⟨⟨⟨hfirst, hlast⟩, hstep⟩, _⟩ := h
  have hplace := Nat.div_add_mod (code - run.first) run.step
  refine List.mem_range'.mpr ⟨(code - run.first) / run.step, ?_, by omega⟩
  exact Nat.lt_succ_of_le (Nat.div_le_div_right (Nat.sub_le_sub_right hlast run.first))

theorem mem_images (h : run.image? code = some image) : image ∈ run.images := by
  refine List.mem_map.mpr ⟨code, mem_codes h, ?_⟩
  simp only [image?, Option.ite_none_right_eq_some, Option.some.injEq] at h
  exact h.2

end CaseRun

section

variable {runs : List CaseRun} {expansions : List (Nat × List Nat)} {c d : Char}

def tableCodes (runs : List CaseRun) (expansions : List (Nat × List Nat)) : List (List Nat) :=
  expansions.map Prod.fst :: runs.map CaseRun.codes

def tableImages (runs : List CaseRun) (expansions : List (Nat × List Nat)) : List (List Nat) :=
  expansions.map Prod.snd ++ runs.map CaseRun.images

theorem mapCase_eq_none (h : c.toNat ∉ (tableCodes runs expansions).flatten) :
    mapCase runs expansions c = none := by
  simp only [tableCodes, List.flatten_cons, List.mem_append, not_or, List.mem_flatten, List.mem_map] at h
  obtain ⟨hexpansion, hruns⟩ := h
  have hrun : runs.findSome? (·.image? c.toNat) = none := by
    rw [List.findSome?_eq_none_iff]
    intro run hmem
    by_contra himage
    obtain ⟨image, hsome⟩ := Option.ne_none_iff_exists'.mp himage
    exact hruns ⟨run.codes, ⟨run, hmem, rfl⟩, CaseRun.mem_codes hsome⟩
  have hlookup : expansions.lookup c.toNat = none := by
    rw [List.lookup_eq_none_iff]
    intro entry hmem
    simp only [bne_iff_ne, ne_eq]
    exact fun heq => hexpansion ⟨entry, hmem, heq.symm⟩
  rw [mapCase, hrun, hlookup, Option.map_none]

theorem mem_mapCase (h : c ∈ (mapCase runs expansions d).getD [d]) :
    (∃ run ∈ runs, ∃ image, run.image? d.toNat = some image ∧ Char.ofNat image = c) ∨
      (∃ codes, (d.toNat, codes) ∈ expansions ∧ ∃ code ∈ codes, Char.ofNat code = c) ∨
      (mapCase runs expansions d = none ∧ c = d) := by
  cases himage : runs.findSome? (·.image? d.toNat) with
  | some image =>
      obtain ⟨run, hrun, hsome⟩ := List.exists_of_findSome?_eq_some himage
      rw [mapCase, himage] at h
      exact .inl ⟨run, hrun, image, hsome, (List.mem_singleton.mp h).symm⟩
  | none =>
      rw [mapCase, himage] at h ⊢
      cases hexpansion : expansions.lookup d.toNat with
      | none =>
          rw [hexpansion] at h
          exact .inr (.inr ⟨rfl, List.mem_singleton.mp h⟩)
      | some codes =>
          rw [hexpansion] at h
          obtain ⟨before, rest, hsplit, _⟩ := List.lookup_eq_some_iff.mp hexpansion
          exact .inr (.inl ⟨codes, by simp [hsplit], List.mem_map.mp h⟩)

theorem mem_tableImages (h : c ∈ (mapCase runs expansions d).getD [d]) :
    (∃ image ∈ (tableImages runs expansions).flatten, Char.ofNat image = c) ∨
      (mapCase runs expansions d = none ∧ c = d) := by
  simp only [tableImages, List.flatten_append, List.mem_append, List.mem_flatten, List.mem_map]
  rcases mem_mapCase h with ⟨run, hrun, image, hsome, hchar⟩ | ⟨codes, hcodes, code, hcode, hchar⟩ | hnone
  · exact .inl ⟨image, .inr ⟨run.images, ⟨run, hrun, rfl⟩, CaseRun.mem_images hsome⟩, hchar⟩
  · exact .inl ⟨code, .inl ⟨codes, ⟨(d.toNat, codes), hcodes, rfl⟩, hcode⟩, hchar⟩
  · exact .inr hnone

end

/-! Lists of codes are compared as numbers that have a bit for each code. -/

def bitsOf (codes : List Nat) : Nat := codes.foldr (fun code bits => 2 ^ code ||| bits) 0

def bitsOfAll (groups : List (List Nat)) : Nat := groups.foldr (fun codes bits => bitsOf codes ||| bits) 0

theorem testBit_bitsOf (codes : List Nat) (code : Nat) :
    (bitsOf codes).testBit code = decide (code ∈ codes) := by
  induction codes with
  | nil => simp [bitsOf]
  | cons first rest ih =>
      rw [bitsOf, List.foldr_cons, Nat.testBit_or, ← bitsOf, ih, Nat.testBit_two_pow]
      simp [eq_comm]

theorem testBit_bitsOfAll (groups : List (List Nat)) (code : Nat) :
    (bitsOfAll groups).testBit code = decide (code ∈ groups.flatten) := by
  induction groups with
  | nil => simp [bitsOfAll]
  | cons codes rest ih =>
      rw [bitsOfAll, List.foldr_cons, Nat.testBit_or, ← bitsOfAll, ih, testBit_bitsOf]
      simp

theorem not_mem_of_bitsOfAll {groups others : List (List Nat)} (h : bitsOfAll groups &&& bitsOfAll others = 0)
    {code : Nat} (hcode : code ∈ groups.flatten) : code ∉ others.flatten := by
  intro hother
  have hbit := congrArg (Nat.testBit · code) h
  simp [testBit_bitsOfAll, hcode, hother] at hbit

theorem lowerImages_not_lowerCodes : bitsOfAll (tableImages lowerRuns lowerExpansions)
    &&& bitsOfAll (tableCodes lowerRuns lowerExpansions) = 0 := by
  decide +kernel

/-! Texts in small letters. -/

theorem isUpperLetter_iff {c : Char} : isUpperLetter c = true ↔ 65 ≤ c.toNat ∧ c.toNat ≤ 90 := by
  rw [isUpperLetter, Bool.and_eq_true, decide_eq_true_eq, decide_eq_true_eq]
  exact Iff.rfl

theorem isLowerLetter_iff {c : Char} : isLowerLetter c = true ↔ 97 ≤ c.toNat ∧ c.toNat ≤ 122 := by
  rw [isLowerLetter, Bool.and_eq_true, decide_eq_true_eq, decide_eq_true_eq]
  exact Iff.rfl

theorem toNat_ofNat {code : Nat} (h : code.isValidChar) : (Char.ofNat code).toNat = code := by
  have hchar : Char.ofNat code = Char.ofNatAux code h := dif_pos h
  exact congrArg Char.toNat hchar

theorem eq_code_of_ofNat {code : Nat} {c : Char} (h : Char.ofNat code = c) (hc : c.toNat ≠ 0) :
    code = c.toNat := by
  subst h
  by_cases hvalid : code.isValidChar
  · exact (toNat_ofNat hvalid).symm
  · have hchar : Char.ofNat code = '\x00' := dif_neg hvalid
    exact absurd (congrArg Char.toNat hchar) hc

def CaseRun.avoids (run : CaseRun) (c : Char) : Bool :=
  run.last < 128 || c.toNat < run.first + run.shift || run.last + run.shift < c.toNat

theorem CaseRun.ofNat_ne_of_image? {run : CaseRun} {c : Char} {code image : Nat}
    (hrun : run.avoids c = true) (hc : c.toNat ≠ 0) (hcode : 128 ≤ code)
    (h : run.image? code = some image) : Char.ofNat image ≠ c := by
  intro hchar
  have himage := eq_code_of_ofNat hchar hc
  simp only [image?, Option.ite_none_right_eq_some, Bool.and_eq_true, decide_eq_true_eq,
    Option.some.injEq] at h
  obtain ⟨⟨⟨hfirst, hlast⟩, _⟩, rfl⟩ := h
  simp only [avoids, Bool.or_eq_true, decide_eq_true_eq] at hrun
  omega

def isOnlyOwn (c : Char) : Bool :=
  c.toNat ≠ 0 && c ∉ ['σ', 'ς'] && !isLowerLetter c && lowerRuns.all (·.avoids c)
    && lowerExpansions.all fun (_, codes) => !codes.contains c.toNat

section

variable {c d : Char}

theorem mem_lowerChar (hown : isOnlyOwn c = true) (h : c ∈ lowerChar d) : d = c := by
  simp only [isOnlyOwn, Bool.and_eq_true, decide_eq_true_eq, List.all_eq_true,
    Bool.not_eq_eq_eq_not, Bool.not_true] at hown
  obtain ⟨⟨⟨⟨hzero, _⟩, hsmall⟩, hruns⟩, hexpansions⟩ := hown
  rw [lowerChar] at h
  split at h
  · rename_i hcode
    rw [List.mem_singleton] at h
    split at h
    · rename_i hupper
      have hshifted := eq_code_of_ofNat h.symm hzero
      rw [isUpperLetter_iff] at hupper
      rw [← Bool.not_eq_true, isLowerLetter_iff] at hsmall
      omega
    · exact h.symm
  · rename_i hbeyond
    rcases mem_mapCase h with ⟨run, hrun, image, hsome, hchar⟩ | ⟨codes, hcodes, code, hcode, hchar⟩ | ⟨_, heq⟩
    · exact absurd hchar (CaseRun.ofNat_ne_of_image? (hruns run hrun) hzero (by omega) hsome)
    · have hfree := hexpansions _ hcodes
      rw [eq_code_of_ofNat hchar hzero] at hcode
      simp [hcode] at hfree
    · exact heq.symm

theorem mem_lowerFrom (hown : isOnlyOwn c = true) {before text : List Char}
    (h : c ∈ lowerFrom before text) : c ∈ text := by
  induction text generalizing before with
  | nil => exact h
  | cons first rest ih =>
      rcases List.mem_append.mp h with hfirst | hrest
      · rw [lowerAt] at hfirst
        split at hfirst
        · have hother : c ∉ ['σ', 'ς'] := by
            simp only [isOnlyOwn, Bool.and_eq_true, decide_eq_true_eq] at hown
            exact hown.1.1.1.2
          have hsigma := List.mem_singleton.mp hfirst
          split at hsigma <;> exact absurd (hsigma ▸ hother) (by decide)
        · exact mem_lowerChar hown hfirst ▸ List.mem_cons_self
      · exact List.mem_cons_of_mem first (ih hrest)

theorem mem_separateCapitals {text : List Char} (h : c ∈ separateCapitals text) : c = '_' ∨ c ∈ text := by
  fun_induction separateCapitals text with
  | case1 => exact .inr h
  | case2 only => exact .inr h
  | case3 first second rest hbreak ih =>
      rcases List.mem_cons.mp h with rfl | h
      · exact .inr List.mem_cons_self
      · rcases List.mem_cons.mp h with rfl | h
        · exact .inl rfl
        · exact (ih h).imp id (List.mem_cons_of_mem first)
  | case4 first second rest hbreak ih =>
      rcases List.mem_cons.mp h with rfl | h
      · exact .inr List.mem_cons_self
      · exact (ih h).imp id (List.mem_cons_of_mem first)

end

theorem isOnlyOwn_of_mark {c : Char} (h : c ∈ ['.', '/', '-', '_']) : isOnlyOwn c = true := by
  have hall : ['.', '/', '-', '_'].all isOnlyOwn = true := by decide
  exact List.all_eq_true.mp hall c h

/-! Small forms. -/

section

variable {c d : Char} {before text : List Char}

/-- The character is its own small form. -/
def isSmall (c : Char) : Bool := lowerChar c == [c]

theorem isSmall_iff : isSmall c = true ↔ lowerChar c = [c] := beq_iff_eq

theorem isSmall_of_not_mem (h : c.toNat ∉ (tableCodes lowerRuns lowerExpansions).flatten) :
    isSmall c = true := by
  rw [isSmall_iff, lowerChar]
  split
  · rw [if_neg]
    intro hupper
    rw [isUpperLetter_iff] at hupper
    have hletters : CaseRun.mk 0x41 0x5A 1 32 ∈ lowerRuns := List.mem_cons_self
    refine h (List.mem_flatten_of_mem (List.mem_cons_of_mem _ (List.mem_map_of_mem hletters)) ?_)
    exact List.mem_range'_1.mpr ⟨hupper.1, Nat.lt_succ_of_le hupper.2⟩
  · rw [mapCase_eq_none h, Option.getD_none]

theorem lowerChar_capital (h : isUpperLetter c = true) : lowerChar c = [Char.ofNat (c.toNat + 32)] := by
  have hrange := isUpperLetter_iff.mp h
  rw [lowerChar, if_pos (by omega), if_pos h]

theorem isSmall_of_ascii (hascii : c.toNat < 128) (h : isUpperLetter c = false) : isSmall c = true := by
  rw [isSmall_iff, lowerChar, if_pos hascii, if_neg (Bool.eq_false_iff.mp h)]

theorem isUpperLetter_of_isSmall (h : isSmall c = true) : isUpperLetter c = false := by
  rw [Bool.eq_false_iff]
  intro hupper
  have hrange := isUpperLetter_iff.mp hupper
  rw [isSmall_iff, lowerChar_capital hupper] at h
  have hcode := eq_code_of_ofNat (List.singleton_inj.mp h) (by omega)
  omega

theorem lowerChar_ne_nil (c : Char) : lowerChar c ≠ [] := by
  rw [lowerChar]
  split
  · exact List.cons_ne_nil _ _
  · rw [mapCase]
    cases lowerRuns.findSome? (·.image? c.toNat) with
    | some image => exact List.cons_ne_nil _ _
    | none =>
        cases hexpansion : lowerExpansions.lookup c.toNat with
        | none => exact List.cons_ne_nil _ _
        | some codes =>
            obtain ⟨before, rest, hsplit, _⟩ := List.lookup_eq_some_iff.mp hexpansion
            have hlong : ∀ entry ∈ lowerExpansions, entry.2 ≠ [] := by decide
            simpa using hlong (c.toNat, codes) (by simp [hsplit])

theorem lowerAt_ne_nil (before : List Char) (c : Char) (after : List Char) : lowerAt before c after ≠ [] := by
  rw [lowerAt]
  split
  · exact List.cons_ne_nil _ _
  · exact lowerChar_ne_nil c

theorem isSmall_of_mem_lowerChar (h : d ∈ lowerChar c) : isSmall d = true := by
  by_cases hascii : c.toNat < 128
  · cases hupper : isUpperLetter c with
    | false =>
        have hsmall := isSmall_of_ascii hascii hupper
        rw [isSmall_iff.mp hsmall, List.mem_singleton] at h
        exact h ▸ hsmall
    | true =>
        have hrange := isUpperLetter_iff.mp hupper
        have hcode : (Char.ofNat (c.toNat + 32)).toNat = c.toNat + 32 := toNat_ofNat (.inl (by omega))
        rw [lowerChar_capital hupper, List.mem_singleton] at h
        subst h
        refine isSmall_of_ascii (by omega) ?_
        rw [← Bool.not_eq_true, isUpperLetter_iff]
        omega
  · rw [lowerChar, if_neg hascii] at h
    rcases mem_tableImages h with ⟨image, himage, hchar⟩ | ⟨hnone, rfl⟩
    -- A code that no character has would lead to the character 0, which is small.
    · by_cases hzero : d.toNat = 0
      · rw [← Char.ofNat_toNat d, hzero]
        rfl
      · rw [eq_code_of_ofNat hchar hzero] at himage
        exact isSmall_of_not_mem (not_mem_of_bitsOfAll lowerImages_not_lowerCodes himage)
    · rw [isSmall_iff, lowerChar, if_neg hascii, hnone, Option.getD_none]

theorem isSmall_sigmas : isSmall 'σ' = true ∧ isSmall 'ς' = true ∧ isSmall capitalSigma = false := by
  decide

theorem isSmall_of_mem_lowerAt {after : List Char} (h : d ∈ lowerAt before c after) : isSmall d = true := by
  rw [lowerAt] at h
  split at h
  · rw [List.mem_singleton] at h
    split at h
    · exact h ▸ isSmall_sigmas.2.1
    · exact h ▸ isSmall_sigmas.1
  · exact isSmall_of_mem_lowerChar h

theorem isSmall_of_mem_lowerFrom (h : d ∈ lowerFrom before text) : isSmall d = true := by
  induction text generalizing before with
  | nil => cases h
  | cons c rest ih =>
      rcases List.mem_append.mp h with hfirst | hrest
      · exact isSmall_of_mem_lowerAt hfirst
      · exact ih hrest

theorem ne_capitalSigma_of_isSmall (h : isSmall c = true) : c ≠ capitalSigma := by
  rintro rfl
  exact Bool.false_ne_true (isSmall_sigmas.2.2.symm.trans h)

theorem lowerAt_of_isSmall (h : isSmall c = true) (before after : List Char) : lowerAt before c after = [c] := by
  rw [lowerAt, if_neg (ne_capitalSigma_of_isSmall h), isSmall_iff.mp h]

theorem lowerFrom_of_isSmall (h : ∀ c ∈ text, isSmall c = true) (before : List Char) :
    lowerFrom before text = text := by
  induction text generalizing before with
  | nil => rfl
  | cons c rest ih =>
      obtain ⟨hc, hrest⟩ := List.forall_mem_cons.mp h
      rw [lowerFrom, lowerAt_of_isSmall hc, ih hrest, List.singleton_append]

theorem lowerFrom_of_ascii (h : ∀ c ∈ text, c.toNat < 128) (before : List Char) :
    lowerFrom before text = text.flatMap lowerChar := by
  induction text generalizing before with
  | nil => rfl
  | cons c rest ih =>
      obtain ⟨hc, hrest⟩ := List.forall_mem_cons.mp h
      have hother : c ≠ capitalSigma := by
        rintro rfl
        exact absurd hc (by decide)
      rw [lowerFrom, lowerAt, if_neg hother, ih hrest, List.flatMap_cons]

end

end Codegen.Text
