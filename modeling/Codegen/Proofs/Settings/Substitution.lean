import Codegen.Settings.Environment
import Mathlib.Data.List.Forall2
import Mathlib.Data.List.TakeWhile
import Mathlib.Tactic.Common

/-! How a text that refers to variables is taken apart. From the left, a reference is taken as a whole where
one begins, and any other character by itself; a reference gives way to what it stands for, which is not taken
apart again. -/

namespace Codegen.Settings

theorem drop_length_takeWhile (p : Char → Bool) (text : List Char) :
    text.drop (text.takeWhile p).length = text.dropWhile p := by
  conv_lhs =>
    arg 2
    rw [← List.takeWhile_append_dropWhile (p := p) (l := text)]
  exact List.drop_left

theorem takeWhile_dropWhile_iff {p : Char → Bool} {text name rest : List Char} :
    text.takeWhile p = name ∧ text.dropWhile p = rest ↔
      text = name ++ rest ∧ (∀ c ∈ name, p c = true) ∧ ∀ c ∈ rest.head?, p c = false := by
  constructor
  · rintro ⟨rfl, rfl⟩
    refine ⟨List.takeWhile_append_dropWhile.symm, fun c => List.mem_takeWhile_imp, fun c hc => ?_⟩
    have hhead := List.head?_dropWhile_not p text
    rwa [Option.mem_def.mp hc] at hhead
  · rintro ⟨rfl, hname, hrest⟩
    rw [List.takeWhile_append_of_pos hname, List.dropWhile_append_of_pos hname]
    cases rest with
    | nil => exact ⟨List.append_nil name, rfl⟩
    | cons c rest =>
        have hc : ¬ p c = true := by simp [hrest c rfl]
        rw [List.takeWhile_cons_of_neg hc, List.dropWhile_cons_of_neg hc, List.append_nil]
        exact ⟨rfl, rfl⟩

namespace Reference

/-- A name that can stand in braces. -/
def IsBraced (name : List Char) : Prop := name ≠ [] ∧ ∀ c ∈ name, c ≠ '\x7d' ∧ c ≠ ':'

/-- The ways in which a reference is written, and what may follow it. A name without braces is as long as it
can be, and what is given instead of a value ends at the first closing brace, on the same line. -/
inductive Stands : Reference → List Char → Prop
  | bare {first : Char} {name rest : List Char} (hfirst : isNameStart first = true)
      (hname : ∀ c ∈ name, isNamePart c = true) (hrest : ∀ c ∈ rest.head?, isNamePart c = false) :
      Stands ⟨first :: name, none, '$' :: first :: name⟩ rest
  | braced {name : List Char} (hname : IsBraced name) (rest : List Char) :
      Stands ⟨name, none, "$\x7b".toList ++ name ++ ['\x7d']⟩ rest
  | defaulted {name default : List Char} (hname : IsBraced name)
      (hdefault : ∀ c ∈ default, c ≠ '\x7d' ∧ c ≠ '\n') (rest : List Char) :
      Stands ⟨name, some default, "$\x7b".toList ++ name ++ [':', '-'] ++ default ++ ['\x7d']⟩ rest

/-- The text begins with the reference. -/
def Begins (r : Reference) (text rest : List Char) : Prop := r.Stands rest ∧ text = r.written ++ rest

section

variable {text name rest : List Char} {r : Reference}

theorem otherwise?_eq_some_iff {default : List Char} :
    otherwise? text = some (default, rest) ↔
      text = default ++ '\x7d' :: rest ∧ ∀ c ∈ default, c ≠ '\x7d' ∧ c ≠ '\n' := by
  have hcut := @takeWhile_dropWhile_iff (fun c => c ≠ '\x7d' ∧ c ≠ '\n') text
  simp only [otherwise?, drop_length_takeWhile]
  constructor
  · intro h
    split at h
    · rename_i hrest
      cases h
      obtain ⟨htext, hdefault, _⟩ := hcut.mp ⟨rfl, hrest⟩
      exact ⟨htext, fun c hc => of_decide_eq_true (hdefault c hc)⟩
    · cases h
  · rintro ⟨htext, hdefault⟩
    obtain ⟨htake, hdrop⟩ := hcut.mpr ⟨htext, fun c hc => decide_eq_true (hdefault c hc), by simp⟩
    simp only [htake, hdrop]

theorem braced?_eq_some_iff :
    braced? text = some (r, rest) ↔ r.Begins ('$' :: '\x7b' :: text) rest := by
  have hcut := @takeWhile_dropWhile_iff (fun c => c ≠ '\x7d' ∧ c ≠ ':') text
  simp only [braced?, drop_length_takeWhile]
  constructor
  · intro h
    split at h
    · cases h
    · rename_i hempty
      obtain ⟨htext, hname, -⟩ := hcut.mp ⟨rfl, rfl⟩
      have hbraced : IsBraced (text.takeWhile fun c => c ≠ '\x7d' ∧ c ≠ ':') :=
        ⟨by simpa using hempty, fun c hc => of_decide_eq_true (hname c hc)⟩
      split at h
      · rename_i more hmore
        cases h
        rw [hmore] at htext
        exact ⟨.braced hbraced _, by simpa using htext⟩
      · rename_i more hmore
        obtain ⟨⟨default, after⟩, hotherwise, h⟩ := Option.bind_eq_some_iff.mp h
        cases h
        obtain ⟨rfl, hdefault⟩ := otherwise?_eq_some_iff.mp hotherwise
        rw [hmore] at htext
        exact ⟨.defaulted hbraced hdefault _, by simpa using htext⟩
      · cases h
  · rintro ⟨hstands, heq⟩
    cases hstands with
    | bare hfirst _ _ =>
        obtain ⟨rfl, -⟩ := List.cons.inj (List.cons.inj heq).2
        exact absurd hfirst (by decide)
    | @braced name hname rest =>
        have htext : text = name ++ '\x7d' :: rest := by simpa using heq
        obtain ⟨htake, hdrop⟩ := hcut.mpr ⟨htext, fun c hc => decide_eq_true (hname.2 c hc), by simp⟩
        have hempty : name.isEmpty = false := by simpa using hname.1
        simp only [htake, hdrop, hempty, Bool.false_eq_true, if_false]
    | @defaulted name default hname hdefault rest =>
        have htext : text = name ++ ':' :: '-' :: (default ++ '\x7d' :: rest) := by simpa using heq
        obtain ⟨htake, hdrop⟩ := hcut.mpr ⟨htext, fun c hc => decide_eq_true (hname.2 c hc), by simp⟩
        have hempty : name.isEmpty = false := by simpa using hname.1
        have hotherwise : otherwise? (default ++ '\x7d' :: rest) = some (default, rest) :=
          otherwise?_eq_some_iff.mpr ⟨rfl, hdefault⟩
        simp only [htake, hdrop, hempty, Bool.false_eq_true, if_false, hotherwise]
        rfl

theorem ofText?_eq_some_iff : ofText? text = some (r, rest) ↔ r.Begins ('$' :: text) rest := by
  rcases text with _ | ⟨first, tail⟩
  · constructor
    · intro h
      cases h
    · rintro ⟨hstands, heq⟩
      cases hstands <;> simp at heq
  by_cases hbrace : first = '\x7b'
  · subst hbrace
    exact braced?_eq_some_iff
  simp only [ofText?]
  constructor
  · intro h
    split at h
    · rename_i hfirst
      cases h
      obtain ⟨htail, hname, hafter⟩ := takeWhile_dropWhile_iff.mp ⟨rfl, rfl⟩
      exact ⟨.bare hfirst hname hafter, congrArg ('$' :: first :: ·) htail⟩
    · cases h
  · rintro ⟨hstands, heq⟩
    cases hstands with
    | bare hfirst hname hrest =>
        obtain ⟨rfl, htail⟩ := List.cons.inj (List.cons.inj heq).2
        obtain ⟨htake, hdrop⟩ := takeWhile_dropWhile_iff.mpr ⟨htail, hname, hrest⟩
        simp only [hfirst, htake, hdrop, if_true]
    | braced _ _ => exact absurd (List.cons.inj (List.cons.inj heq).2).1 hbrace
    | defaulted _ _ _ => exact absurd (List.cons.inj (List.cons.inj heq).2).1 hbrace

/-! How texts begin. -/

theorem Stands.exists_written (h : r.Stands rest) : ∃ more, r.written = '$' :: more := by
  cases h <;> exact ⟨_, rfl⟩

theorem begins_cons_iff {c : Char} :
    r.Begins (c :: text) rest ↔ (if c = '$' then ofText? text else none) = some (r, rest) := by
  by_cases hc : c = '$'
  · rw [if_pos hc, hc, ofText?_eq_some_iff]
  · rw [if_neg hc]
    constructor
    · rintro ⟨hstands, heq⟩
      obtain ⟨more, hwritten⟩ := hstands.exists_written
      rw [hwritten] at heq
      exact absurd (List.cons.inj heq).1 hc
    · intro h
      cases h

theorem not_begins_nil : ¬ r.Begins [] rest := by
  rintro ⟨hstands, heq⟩
  obtain ⟨more, hwritten⟩ := hstands.exists_written
  rw [hwritten] at heq
  cases heq

theorem Begins.length_lt (h : r.Begins text rest) : rest.length < text.length := by
  obtain ⟨hstands, rfl⟩ := h
  obtain ⟨more, hwritten⟩ := hstands.exists_written
  rw [hwritten, List.length_append, List.length_cons]
  omega

theorem not_begins_of_colon {more : List Char} (hname : ∀ c ∈ name, c ≠ '\x7d' ∧ c ≠ ':')
    (hmore : more.head? ≠ some '-') : ¬ r.Begins ('$' :: '\x7b' :: (name ++ ':' :: more)) rest := by
  have hcut := @takeWhile_dropWhile_iff (fun c => c ≠ '\x7d' ∧ c ≠ ':') (name ++ ':' :: more)
  obtain ⟨htake, -⟩ := hcut.mpr ⟨rfl, fun c hc => decide_eq_true (hname c hc), by simp⟩
  rw [← braced?_eq_some_iff]
  simp only [braced?, htake, List.drop_left]
  intro h
  split at h
  · cases h
  · split at h
    · rename_i heq
      exact absurd (List.cons.inj heq).1 (by decide)
    · rename_i heq
      rw [(List.cons.inj heq).2] at hmore
      exact hmore rfl
    · cases h

theorem not_begins_of_unclosed (hopen : '\x7d' ∉ text) : ¬ r.Begins ('$' :: '\x7b' :: text) rest := by
  rintro ⟨hstands, heq⟩
  cases hstands with
  | bare hfirst _ _ =>
      obtain ⟨rfl, -⟩ := List.cons.inj (List.cons.inj heq).2
      exact absurd hfirst (by decide)
  | braced _ _ =>
      refine hopen ?_
      rw [(List.cons.inj (List.cons.inj heq).2).2]
      simp
  | defaulted _ _ _ =>
      refine hopen ?_
      rw [(List.cons.inj (List.cons.inj heq).2).2]
      simp

end

end Reference

/-! ### Taking texts apart -/

/-- A text is taken apart from the left, each reference at the place where it begins. -/
inductive TakenApart : List Char → List Piece → Prop
  | done : TakenApart [] []
  | reference {r : Reference} {text rest : List Char} {pieces : List Piece} (hr : r.Begins text rest)
      (hrest : TakenApart rest pieces) : TakenApart text (.reference r :: pieces)
  | plain {c : Char} {rest : List Char} {pieces : List Piece}
      (hc : ∀ (r : Reference) after, ¬ r.Begins (c :: rest) after) (hrest : TakenApart rest pieces) :
      TakenApart (c :: rest) (.plain c :: pieces)

/-- The characters that a piece was taken from. -/
def Piece.written : Piece → List Char
  | .plain c => [c]
  | .reference r => r.written

section

variable {text : List Char} {pieces : List Piece}

theorem pieces_cons_reference {c : Char} {rest after : List Char} {r : Reference} (fuel : Nat)
    (hr : r.Begins (c :: rest) after) :
    Settings.pieces (fuel + 1) (c :: rest) = .reference r :: Settings.pieces fuel after := by
  rw [Settings.pieces, Reference.begins_cons_iff.mp hr]

theorem pieces_cons_plain {c : Char} {rest : List Char} (fuel : Nat)
    (hc : ∀ (r : Reference) after, ¬ r.Begins (c :: rest) after) :
    Settings.pieces (fuel + 1) (c :: rest) = .plain c :: Settings.pieces fuel rest := by
  have hnone : (if c = '$' then Reference.ofText? rest else none) = none :=
    Option.eq_none_iff_forall_ne_some.mpr fun (r, after) h => hc r after (Reference.begins_cons_iff.mpr h)
  rw [Settings.pieces, hnone]

theorem takenApart_pieces {fuel : Nat} (hfuel : text.length < fuel) :
    TakenApart text (Settings.pieces fuel text) := by
  induction fuel generalizing text with
  | zero => omega
  | succ fuel ih =>
      cases text with
      | nil => exact .done
      | cons c rest =>
          by_cases hr : ∃ (r : Reference) (after : List Char), r.Begins (c :: rest) after
          · obtain ⟨r, after, hr⟩ := hr
            rw [pieces_cons_reference fuel hr]
            have hshorter := hr.length_lt
            exact .reference hr (ih (by omega))
          · simp only [not_exists] at hr
            rw [pieces_cons_plain fuel hr]
            rw [List.length_cons] at hfuel
            exact .plain hr (ih (by omega))

theorem TakenApart.pieces_eq (h : TakenApart text pieces) {fuel : Nat} (hfuel : text.length < fuel) :
    Settings.pieces fuel text = pieces := by
  induction h generalizing fuel with
  | done =>
      cases fuel <;> rfl
  | @reference r text rest pieces hr hrest ih =>
      obtain ⟨fuel, rfl⟩ := Nat.exists_eq_succ_of_ne_zero (Nat.ne_of_gt (Nat.zero_lt_of_lt hfuel))
      have hshorter := hr.length_lt
      cases text with
      | nil => exact absurd hr Reference.not_begins_nil
      | cons c tail => rw [pieces_cons_reference fuel hr, ih (by omega)]
  | @plain c rest pieces hc hrest ih =>
      obtain ⟨fuel, rfl⟩ := Nat.exists_eq_succ_of_ne_zero (Nat.ne_of_gt (Nat.zero_lt_of_lt hfuel))
      rw [List.length_cons] at hfuel
      rw [pieces_cons_plain fuel hc, ih (by omega)]

theorem takenApart_iff {text : String} : TakenApart text.toList pieces ↔ pieces = piecesOf text := by
  have hfuel : text.toList.length < text.length + 1 := Nat.lt_succ_self _
  constructor
  · exact fun h => (h.pieces_eq hfuel).symm
  · rintro rfl
    exact takenApart_pieces hfuel

theorem TakenApart.flatMap_written (h : TakenApart text pieces) : pieces.flatMap Piece.written = text := by
  induction h with
  | done => rfl
  | reference hr _ ih =>
      rw [List.flatMap_cons, ih, hr.2]
      rfl
  | plain _ _ ih =>
      rw [List.flatMap_cons, ih]
      rfl

end

/-! ### What becomes of the pieces -/

/-- What stands in the room of a piece: the value of a variable that is set, or else what the reference gives
instead, or else the reference itself. -/
inductive Piece.Yields (environment : Environment) : Piece → List Char → Prop
  | plain (c : Char) : Yields environment (.plain c) [c]
  | value {r : Reference} {value : String}
      (hset : environment.lookup (String.ofList r.name) = some value) :
      Yields environment (.reference r) value.toList
  | otherwise {r : Reference} {default : List Char}
      (hunset : environment.lookup (String.ofList r.name) = none) (hdefault : r.otherwise = some default) :
      Yields environment (.reference r) default
  | itself {r : Reference} (hunset : environment.lookup (String.ofList r.name) = none)
      (hdefault : r.otherwise = none) : Yields environment (.reference r) r.written

/-- A text comes to what stands in the rooms of its pieces, one after another. -/
def Expands (environment : Environment) (text result : String) : Prop :=
  ∃ pieces parts, TakenApart text.toList pieces ∧
    List.Forall₂ (Piece.Yields environment) pieces parts ∧ result.toList = parts.flatten

/-- The reference names a variable that is not set, and gives nothing instead. -/
def Reference.IsVain (environment : Environment) (r : Reference) : Prop :=
  environment.lookup (String.ofList r.name) = none ∧ r.otherwise = none

def Piece.room (environment : Environment) : Piece → List Char
  | .plain c => [c]
  | .reference r => r.value environment

section

variable {environment : Environment} {text result : String} {pieces : List Piece}

theorem Piece.yields_iff {piece : Piece} {part : List Char} :
    piece.Yields environment part ↔ part = piece.room environment := by
  constructor
  · intro h
    cases h with
    | plain c => rfl
    | value hset => simp only [room, Reference.value, hset]
    | otherwise hunset hdefault => simp only [room, Reference.value, hunset, hdefault, Option.getD_some]
    | itself hunset hdefault => simp only [room, Reference.value, hunset, hdefault, Option.getD_none]
  · rintro rfl
    cases piece with
    | plain c => exact .plain c
    | reference r =>
        rw [room, Reference.value]
        cases hset : environment.lookup (String.ofList r.name) with
        | some value => exact .value hset
        | none =>
            cases hdefault : r.otherwise with
            | some default => exact .otherwise hset hdefault
            | none => exact .itself hset hdefault

theorem forall₂_yields_iff {parts : List (List Char)} :
    List.Forall₂ (Piece.Yields environment) pieces parts ↔ parts = pieces.map (Piece.room environment) := by
  induction pieces generalizing parts with
  | nil => rw [List.forall₂_nil_left_iff, List.map_nil]
  | cons piece pieces ih =>
      rw [List.forall₂_cons_left_iff, List.map_cons]
      constructor
      · rintro ⟨part, rest, hpart, hrest, rfl⟩
        rw [Piece.yields_iff.mp hpart, ih.mp hrest]
      · rintro rfl
        exact ⟨_, _, Piece.yields_iff.mpr rfl, ih.mpr rfl, rfl⟩

theorem toList_expand (h : TakenApart text.toList pieces) :
    (expand environment text).toList = pieces.flatMap (Piece.room environment) := by
  rw [takenApart_iff.mp h, expand, String.toList_ofList]
  rfl

theorem expands_iff : Expands environment text result ↔ result = expand environment text := by
  have htext : TakenApart text.toList (piecesOf text) := takenApart_iff.mpr rfl
  rw [← String.toList_inj, toList_expand htext]
  constructor
  · rintro ⟨pieces, parts, hpieces, hparts, hresult⟩
    rw [hresult, forall₂_yields_iff.mp hparts, takenApart_iff.mp hpieces, List.flatMap]
  · intro hresult
    exact ⟨_, _, htext, forall₂_yields_iff.mpr rfl, hresult⟩

theorem expand_plain {c : Char} {rest : String}
    (hc : ∀ (r : Reference) after, ¬ r.Begins (c :: rest.toList) after) :
    expand environment (String.singleton c ++ rest) = String.singleton c ++ expand environment rest := by
  have hrest : TakenApart rest.toList (piecesOf rest) := takenApart_iff.mpr rfl
  have htext : TakenApart (String.singleton c ++ rest).toList (.plain c :: piecesOf rest) := by
    simpa using TakenApart.plain hc hrest
  rw [← String.toList_inj, toList_expand htext, String.toList_append, toList_expand hrest]
  simp [Piece.room]

theorem expand_open {rest : String}
    (hopen : ∀ (r : Reference) after, ¬ r.Begins ('$' :: '\x7b' :: rest.toList) after) :
    expand environment ("$\x7b" ++ rest) = "$\x7b" ++ expand environment rest := by
  have hbrace : ∀ (r : Reference) after, ¬ r.Begins ('\x7b' :: rest.toList) after := by
    intro r after h
    rw [Reference.begins_cons_iff, if_neg (by decide)] at h
    cases h
  have hsplit : ("$\x7b" : String) = String.singleton '$' ++ String.singleton '\x7b' := rfl
  rw [hsplit, String.append_assoc, expand_plain (by simpa using hopen), expand_plain hbrace, String.append_assoc]

theorem expand_of_isVain (h : ∀ r, .reference r ∈ piecesOf text → r.IsVain environment) :
    expand environment text = text := by
  have htext : TakenApart text.toList (piecesOf text) := takenApart_iff.mpr rfl
  rw [← String.toList_inj, toList_expand htext]
  conv_rhs => rw [← htext.flatMap_written]
  refine List.flatMap_congr fun piece hpiece => ?_
  cases piece with
  | plain c => rfl
  | reference r =>
      obtain ⟨hunset, hdefault⟩ := h r hpiece
      simp only [Piece.room, Piece.written, Reference.value, hunset, hdefault, Option.getD_none]

theorem Reference.isUnknown_iff {r : Reference} : r.isUnknown environment = true ↔ r.IsVain environment := by
  rw [isUnknown, Bool.and_eq_true, Option.isNone_iff_eq_none, Option.isNone_iff_eq_none, IsVain]

theorem mem_unknownNames_iff {name : String} : name ∈ unknownNames environment text ↔
    ∃ r, .reference r ∈ piecesOf text ∧ r.IsVain environment ∧ String.ofList r.name = name := by
  rw [unknownNames, List.mem_filterMap]
  constructor
  · rintro ⟨piece, hpiece, h⟩
    cases piece with
    | plain c => cases h
    | reference r =>
        dsimp only at h
        split at h
        · rename_i hunknown
          exact ⟨r, hpiece, Reference.isUnknown_iff.mp hunknown, Option.some.inj h⟩
        · cases h
  · rintro ⟨r, hpiece, hvain, rfl⟩
    exact ⟨_, hpiece, if_pos (Reference.isUnknown_iff.mpr hvain)⟩

end

end Codegen.Settings
