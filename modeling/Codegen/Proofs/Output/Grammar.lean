import Codegen.Proofs.Output.Heading

/-! Which texts begin with a directive, and what each of them says. A directive is the first line of a text
that begins with the directive's mark; it has a mode in any letter case, and perhaps a path. -/

namespace Codegen.Output

open Codegen.Text

/-- The line that a text begins with, and what follows its line feed; without a line feed the line is the
whole text and nothing follows. -/
def IsFirstLine (text line body : String) : Prop :=
  '\n' ∉ line.toList ∧ (text = line ++ "\n" ++ body ∨ text = line ∧ body = "")

section

variable {text line body word : String} {mode : Mode}

theorem isFirstLine_firstLine (text : String) : IsFirstLine text (firstLine text).1 (firstLine text).2 := by
  rcases line_or_more text with hline | ⟨line, more, hline, rfl⟩
  · rw [firstLine_of_not_mem hline]
    exact ⟨hline, .inr ⟨rfl, rfl⟩⟩
  · rw [firstLine_line hline]
    exact ⟨hline, .inl rfl⟩

theorem firstLine_eq_iff : firstLine text = (line, body) ↔ IsFirstLine text line body := by
  constructor
  · intro h
    have hfirst := isFirstLine_firstLine text
    rwa [h] at hfirst
  · rintro ⟨hline, rfl | ⟨rfl, rfl⟩⟩
    · exact firstLine_line hline body
    · exact firstLine_of_not_mem hline

theorem hasStart_iff {start : String} : hasStart start text = true ↔ ∃ rest, text = start ++ rest := by
  rw [hasStart, Option.isSome_iff_exists]
  constructor
  · rintro ⟨rest, h⟩
    refine ⟨String.ofList rest, ?_⟩
    rw [← String.toList_inj, String.toList_append, String.toList_ofList]
    exact dropStart?_eq_some_iff.mp h
  · rintro ⟨rest, rfl⟩
    exact ⟨rest.toList, dropStart?_eq_some_iff.mpr String.toList_append⟩

/-! ### Modes -/

theorem Mode.ofName?_eq_some_iff : ofName? text = some mode ↔ text = mode.name := by
  constructor
  · intro h
    exact (of_decide_eq_true (List.find?_some (p := fun mode : Mode => mode.name = text) h)).symm
  · rintro rfl
    cases mode <;> rfl

theorem Mode.parse_of_name (template : Option String) (h : lower word = mode.name) :
    Mode.parse word template = .ok mode := by
  rw [parse, ofName?_eq_some_iff.mpr h]

theorem Mode.parse_of_no_name (template : Option String) (h : ∀ mode : Mode, lower word ≠ mode.name) :
    Mode.parse word template = .error (.generation (.unknownMode word template)) := by
  have hnone : ofName? (lower word) = none :=
    Option.eq_none_iff_forall_ne_some.mpr fun mode hmode => h mode (ofName?_eq_some_iff.mp hmode)
  rw [parse, hnone]

theorem Mode.exists_or_none (word : String) :
    (∃ mode : Mode, lower word = mode.name) ∨ ∀ mode : Mode, lower word ≠ mode.name := by
  rw [← not_exists]
  exact Classical.em _

theorem Mode.name_inj {other : Mode} (h : mode.name = other.name) : mode = other :=
  Option.some.inj ((ofName?_eq_some_iff.mpr rfl).symm.trans (ofName?_eq_some_iff.mpr h))

/-! ### Directives -/

/-- What the words behind the mark of a directive come to. -/
inductive Meant (template : Option String) (line body : String) (args : List String) :
    Except Failure (Option Directive × String) → Prop
  | directive {word : String} {mode : Mode} {path? : Option String} (hargs : args = word :: path?.toList)
      (hmode : lower word = mode.name) : Meant template line body args (.ok (some ⟨mode, path?⟩, body))
  | unknown {word : String} {path? : Option String} (hargs : args = word :: path?.toList)
      (hnone : ∀ mode : Mode, lower word ≠ mode.name) :
      Meant template line body args (.error (.generation (.unknownMode word template)))
  | malformed (hargs : args = [] ∨ 2 < args.length) :
      Meant template line body args (.error (.generation (.malformedDirective (strip line) template)))

section

variable {template : Option String} {args : List String} {path? : Option String}
  {outcome : Except Failure (Option Directive × String)}

theorem not_malformed (hargs : args = word :: path?.toList) : ¬ (args = [] ∨ 2 < args.length) := by
  subst hargs
  cases path? <;> simp

theorem Meant.eq_directive (h : Meant template line body args outcome) (hargs : args = word :: path?.toList)
    (hmode : lower word = mode.name) : outcome = .ok (some ⟨mode, path?⟩, body) := by
  cases h with
  | directive hown hother =>
      obtain ⟨rfl, hpath⟩ := List.cons.inj (hown.symm.trans hargs)
      have hhead := congrArg List.head? hpath
      rw [Option.head?_toList, Option.head?_toList] at hhead
      rw [Mode.name_inj (hother.symm.trans hmode), hhead]
  | unknown hown hnone =>
      obtain ⟨rfl, _⟩ := List.cons.inj (hown.symm.trans hargs)
      exact absurd hmode (hnone mode)
  | malformed hown => exact absurd hown (not_malformed hargs)

theorem Meant.eq_unknown (h : Meant template line body args outcome) (hargs : args = word :: path?.toList)
    (hnone : ∀ mode : Mode, lower word ≠ mode.name) :
    outcome = .error (.generation (.unknownMode word template)) := by
  cases h with
  | directive hown hmode =>
      obtain ⟨rfl, _⟩ := List.cons.inj (hown.symm.trans hargs)
      exact absurd hmode (hnone _)
  | unknown hown _ =>
      obtain ⟨rfl, _⟩ := List.cons.inj (hown.symm.trans hargs)
      rfl
  | malformed hown => exact absurd hown (not_malformed hargs)

theorem Meant.eq_malformed (h : Meant template line body args outcome) (hargs : args = [] ∨ 2 < args.length) :
    outcome = .error (.generation (.malformedDirective (strip line) template)) := by
  cases h with
  | directive hown _ => exact absurd hargs (not_malformed hown)
  | unknown hown _ => exact absurd hargs (not_malformed hown)
  | malformed _ => rfl

end

theorem parseDirective_meant {rest : String} {args : List String} (template : Option String)
    (hfirst : IsFirstLine (directiveStart ++ rest) line body)
    (hargs : Spaced ("##output" :: args) line) :
    Meant template line body args (parseDirective (directiveStart ++ rest) template) := by
  have hone : ∀ word (path? : Option String), Meant template line body (word :: path?.toList)
      ((Mode.parse word template).map fun mode => (some ⟨mode, path?⟩, body)) := by
    intro word path?
    rcases Mode.exists_or_none word with ⟨mode, hmode⟩ | hnone
    · rw [Mode.parse_of_name template hmode]
      exact .directive rfl hmode
    · rw [Mode.parse_of_no_name template hnone]
      exact .unknown rfl hnone
  rw [parseDirective, if_pos (hasStart_iff.mpr ⟨rest, rfl⟩), firstLine_eq_iff.mpr hfirst]
  dsimp only
  rw [words_eq_iff.mpr hargs, List.drop_one, List.tail_cons]
  rcases args with _ | ⟨word, _ | ⟨path, _ | ⟨third, more⟩⟩⟩
  · exact .malformed (.inl rfl)
  · exact hone word none
  · exact hone word (some path)
  · exact .malformed (.inr (by simp))

/-- A text with the mark of a directive in front has a first line, whose first word is the mark without
its blank. -/
theorem exists_args (rest : String) : ∃ line body args,
    IsFirstLine (directiveStart ++ rest) line body ∧ Spaced ("##output" :: args) line := by
  obtain ⟨args, hargs⟩ := exists_spaced (firstLine rest).1
  have hfirst := isFirstLine_firstLine (directiveStart ++ rest)
  rw [firstLine_append (by decide)] at hfirst
  refine ⟨_, _, args, hfirst, ?_⟩
  have hstart : directiveStart = "" ++ "##output" ++ " " := rfl
  rw [hstart, String.append_assoc]
  refine .word rfl (by decide) (by decide) (hargs.blank_append rfl) fun c hc => ?_
  have hblank : (" " ++ (firstLine rest).1).toList.head? = some ' ' := by
    rw [String.toList_append]
    rfl
  rw [hblank] at hc
  exact Option.some.inj hc ▸ rfl

theorem Mode.word_ne_empty (hword : lower word = mode.name) : word ≠ "" := by
  rintro rfl
  revert hword
  cases mode <;> decide

theorem parseDirective_directive {word path : String} (template : Option String)
    (hword : lower word = mode.name) (hne : path ≠ "") (hpath : IsUnbroken path) (body : String) :
    parseDirective (directiveStart ++ word ++ " " ++ path ++ "\n" ++ body) template =
      .ok (some ⟨mode, some path⟩, body) := by
  have hword_unbroken : IsUnbroken word := isUnbroken_of_lower (hword ▸ isUnbroken_name mode)
  have hline : '\n' ∉ (directiveStart ++ (word ++ (" " ++ path))).toList := by
    simp only [String.toList_append, List.mem_append, not_or]
    exact ⟨by decide, fun h => absurd (hword_unbroken _ h) (by decide), by decide,
      fun h => absurd (hpath _ h) (by decide)⟩
  have hwords := words_directive (Mode.word_ne_empty hword) hword_unbroken path
  rw [words_of_isUnbroken hne hpath] at hwords
  simp only [String.append_assoc] at hwords ⊢
  have hspaced : Spaced ("##output" :: [word, path]) (directiveStart ++ (word ++ (" " ++ path))) :=
    words_eq_iff.mp hwords
  refine (parseDirective_meant template ⟨hline, .inl ?_⟩ hspaced).eq_directive rfl hword
  simp only [String.append_assoc]

/-- A text is read as it is unless it begins with the mark of a directive. Then the words behind the mark
tell what comes of it, up to the first line feed: one or two of them are a directive if the first is a mode
in some letter case, and are refused by name if it is not; any other number of words is refused with the
line. In particular every mode and every path without white space can be written as a directive. -/
theorem parseDirective_grammar (template : Option String) :
    (∀ text body, parseDirective text template = .ok (none, body) ↔
      body = text ∧ ∀ rest, text ≠ directiveStart ++ rest) ∧
    (∀ rest, ∃ line body args, IsFirstLine (directiveStart ++ rest) line body ∧
      Spaced ("##output" :: args) line ∧
      (∀ mode path? remaining,
        parseDirective (directiveStart ++ rest) template = .ok (some ⟨mode, path?⟩, remaining) ↔
          remaining = body ∧ ∃ word, args = word :: path?.toList ∧ lower word = mode.name) ∧
      (∀ word name,
        parseDirective (directiveStart ++ rest) template = .error (.generation (.unknownMode word name)) ↔
          name = template ∧ (∃ path?, args = word :: Option.toList path?) ∧
            ∀ mode : Mode, lower word ≠ mode.name) ∧
      (parseDirective (directiveStart ++ rest) template =
          .error (.generation (.malformedDirective (strip line) template)) ↔
        args = [] ∨ 2 < args.length)) ∧
    (∀ (mode : Mode) word path body, lower word = mode.name → path ≠ "" → IsUnbroken path →
      parseDirective (directiveStart ++ word ++ " " ++ path ++ "\n" ++ body) template =
        .ok (some ⟨mode, some path⟩, body)) := by
  refine ⟨fun text body => ?_, fun rest => ?_, fun mode word path body hword hne hpath =>
    parseDirective_directive template hword hne hpath body⟩
  · by_cases hstart : ∃ rest, text = directiveStart ++ rest
    · obtain ⟨rest, rfl⟩ := hstart
      obtain ⟨line, body', args, hfirst, hargs⟩ := exists_args rest
      have hmeant := parseDirective_meant template hfirst hargs
      generalize parseDirective (directiveStart ++ rest) template = outcome at hmeant
      constructor
      · rintro rfl
        cases hmeant
      · exact fun h => absurd rfl (h.2 rest)
    · rw [parseDirective, if_neg (mt hasStart_iff.mp hstart)]
      constructor
      · intro h
        cases h
        exact ⟨rfl, fun rest heq => hstart ⟨rest, heq⟩⟩
      · rintro ⟨rfl, _⟩
        rfl
  · obtain ⟨line, body, args, hfirst, hargs⟩ := exists_args rest
    have hmeant := parseDirective_meant template hfirst hargs
    refine ⟨line, body, args, hfirst, hargs, fun mode path? remaining => ⟨fun h => ?_, ?_⟩,
      fun word name => ⟨fun h => ?_, ?_⟩, fun h => ?_, hmeant.eq_malformed⟩
    · rw [h] at hmeant
      cases hmeant with
      | directive hown hmode => exact ⟨rfl, _, hown, hmode⟩
    · rintro ⟨rfl, word, hown, hmode⟩
      exact hmeant.eq_directive hown hmode
    · rw [h] at hmeant
      cases hmeant with
      | unknown hown hnone => exact ⟨rfl, ⟨_, hown⟩, hnone⟩
    · rintro ⟨rfl, ⟨path?, hown⟩, hnone⟩
      exact hmeant.eq_unknown hown hnone
    · rw [h] at hmeant
      cases hmeant with
      | malformed hown => exact hown

/-- The mode in mixed case, and a body that looks like a directive itself. -/
theorem parseDirective_grammar_capitals :
    lower "PreServe" = Mode.preserve.name ∧ IsUnbroken "gen/Order.py" ∧
      parseDirective (directiveStart ++ "PreServe" ++ " " ++ "gen/Order.py" ++ "\n" ++ "##output x\r\n") none =
        .ok (some ⟨.preserve, some "gen/Order.py"⟩, "##output x\r\n") := by
  have hmode : lower "PreServe" = Mode.preserve.name := by decide +kernel
  have hpath : IsUnbroken "gen/Order.py" := by decide
  exact ⟨hmode, hpath, (parseDirective_grammar none).2.2 _ _ _ _ hmode (by decide) hpath⟩

end

end Codegen.Output
