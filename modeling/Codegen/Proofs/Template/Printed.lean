import Codegen.Platform.Bundle
import Codegen.Proofs.Template.Sequence
import Codegen.Proofs.Text.Words

/-! Templates that print one expression in which names stand: how the expression is taken apart into tokens, and
how it is read from them. -/

namespace Codegen.Template

/-- A name that stands for a variable where an expression is expected. -/
structure IsVariable (name : String) : Prop where
  identifier : Text.isIdentifier name = true
  free : name ∉ ["true", "True", "false", "False", "none", "None", "not"]

namespace IsVariable

variable {name : String}

theorem dropWhile_blank (h : IsVariable name) (rest : List Char) :
    (name.toList ++ rest).dropWhile Text.isBlank = name.toList ++ rest := by
  obtain ⟨first, others, hlist⟩ := List.exists_cons_of_ne_nil
    (mt String.toList_eq_nil_iff.mp (Text.ne_empty_of_isIdentifier h.identifier))
  have hfirst := Text.isUnbroken_of_isIdentifier h.identifier first (hlist ▸ List.mem_cons_self)
  rw [hlist, List.cons_append, List.dropWhile_cons_of_neg]
  rw [hfirst]
  decide

theorem no_return (h : IsVariable name) : '\r' ∉ name.toList := by
  intro hmem
  have hletter := Text.isUnbroken_of_isIdentifier h.identifier '\r' hmem
  exact absurd hletter (by decide)

theorem ofName (h : IsVariable name) : ofName name = .name name := by
  have hfree := h.free
  unfold Template.ofName
  split <;> first | exact absurd (by decide) hfree | rfl

theorem not_negation (h : IsVariable name) {rest : List Token} :
    (Token.name name :: rest).head?.any (Token.isWord "not") = false := by
  refine decide_eq_false fun heq => h.free ?_
  rw [heq]
  decide

end IsVariable

/-! Scanning. -/

section

variable {rest : List Char} {first next : Char} {brackets : List String} {tokens : List Token}

theorem not_begins_of_isIdentifierStart (h : Text.isIdentifierStart first = true) {c : Char}
    (hc : Text.isIdentifierStart c = false) : first ≠ c := by
  rintro rfl
  exact Bool.false_ne_true (hc.symm.trans h)

theorem digitRun_of_isIdentifierStart (h : Text.isIdentifierStart first = true) (rest : List Char) :
    digitRun Text.isDigit (first :: rest) = [] := by
  have hdigit : Text.isDigit first = false := by
    rw [← Bool.not_eq_true]
    intro hdigit
    have hcode : 48 ≤ first.toNat ∧ first.toNat ≤ 57 := by
      rw [Text.isDigit, Bool.and_eq_true, decide_eq_true_eq, decide_eq_true_eq] at hdigit
      exact hdigit
    obtain ⟨code, hmem, rfl⟩ : ∃ code ∈ List.range' 48 10, first = Char.ofNat code :=
      ⟨first.toNat, List.mem_range'_1.mpr (by omega), (Char.ofNat_toNat first).symm⟩
    have hnone : ∀ code ∈ List.range' 48 10, Text.isIdentifierStart (Char.ofNat code) = false := by decide
    exact Bool.false_ne_true ((hnone code hmem).symm.trans h)
  rw [digitRun, hdigit]
  rfl

theorem float?_of_isIdentifierStart (h : Text.isIdentifierStart first = true) (rest : List Char) :
    float? (first :: rest) = none := by
  rw [float?, digitRun_of_isIdentifierStart h]
  rfl

theorem int?_of_isIdentifierStart (h : Text.isIdentifierStart first = true) (rest : List Char) :
    int? (first :: rest) = none := by
  have hzero : first ≠ '0' := not_begins_of_isIdentifierStart h (by decide)
  unfold int?
  simp only
  split
  · rename_i heq
    exact absurd (List.cons.inj heq).1 hzero
  · rename_i heq
    exact absurd (List.cons.inj heq).1 hzero
  · rw [digitRun_of_isIdentifierStart h]
    rfl

theorem inner_name (afterDot : Bool) {name : List Char} (hname : Text.isIdentifierList name = true)
    (hnext : Text.isIdentifierContinue next = false) (rest : List Char) :
    inner afterDot (name ++ next :: rest) = .ok (.name (String.ofList name), next :: rest) := by
  cases name with
  | nil => cases hname
  | cons first others =>
      have hparts := hname
      rw [Text.isIdentifierList, Bool.and_eq_true] at hparts
      have hstart := Text.isIdentifierContinue_of_start hparts.1
      have htaken : (first :: (others ++ next :: rest)).takeWhile Text.isIdentifierContinue = first :: others := by
        rw [← List.cons_append, List.takeWhile_append_of_pos, List.takeWhile_cons_of_neg, List.append_nil]
        · rw [hnext]
          decide
        · intro c hc
          rcases List.mem_cons.mp hc with rfl | hc
          · exact hstart
          · exact List.all_eq_true.mp hparts.2 c hc
      have hfloat : (if afterDot = true then none else float? (first :: (others ++ next :: rest))) = none := by
        split
        · rfl
        · exact float?_of_isIdentifierStart hparts.1 _
      rw [List.cons_append, inner, hfloat, int?_of_isIdentifierStart hparts.1]
      dsimp only
      rw [if_pos hstart, htaken, if_pos hname, ← List.cons_append, List.drop_left]

def Scans (brackets : List String) (text : List Char) (tokens : List Token) : Prop :=
  ∀ fuel, text.length + 2 ≤ fuel →
    ∃ placed, scan .print brackets false fuel text = .ok placed ∧ placed.map (·.token) = tokens

theorem Scans.cons {c : Char} {cs : List Char} {owed : List String} {token : Token}
    (hend : brackets = [] → end? closePrint false (c :: cs) = none) (hblank : Text.isBlank c = false)
    (hinner : inner false (c :: cs) = .ok (token, rest)) (howed : owedAfter brackets token = .ok owed)
    (hdot : token ≠ .sign ".") (hlength : rest.length ≤ cs.length) (h : Scans owed rest tokens) :
    Scans brackets (c :: cs) (token :: tokens) := by
  intro fuel hfuel
  obtain ⟨fuel, rfl⟩ : ∃ left, fuel = left + 1 := ⟨fuel - 1, by omega⟩
  rw [List.length_cons] at hfuel
  obtain ⟨placed, hscan, htokens⟩ := h fuel (by omega)
  refine ⟨⟨token, c :: cs⟩ :: placed, ?_, by rw [List.map_cons, htokens]⟩
  have hopen : (if brackets.isEmpty then end? closePrint false (c :: cs) else none) = none := by
    split
    · rename_i hempty
      exact hend (List.isEmpty_iff.mp hempty)
    · rfl
  rw [scan]
  · simp only [if_true, hopen, hblank, hinner, howed, hscan, bind, Except.bind, Bool.false_eq_true, if_false]
    rfl
  · exact nofun

theorem end?_of_isIdentifierStart (h : Text.isIdentifierStart first = true) (rest : List Char) : end? closePrint false
    (first :: rest) = none := by
  unfold end?
  split
  · rename_i heq
    exact absurd (List.cons.inj heq).1 (not_begins_of_isIdentifierStart h (by decide))
  · rfl
  · rw [closePrint, Text.dropStart?, if_neg (not_begins_of_isIdentifierStart h (by decide)).symm]

theorem Scans.cons_name {name : String} (hname : Text.isIdentifier name = true)
    (hnext : Text.isIdentifierContinue next = false) (h : Scans brackets (next :: rest) tokens) :
    Scans brackets (name.toList ++ next :: rest) (.name name :: tokens) := by
  have hinner := inner_name false hname hnext rest
  have hbegins := Text.isUnbroken_of_isIdentifier hname
  rw [String.ofList_toList] at hinner
  rw [Text.isIdentifier] at hname
  cases hlist : name.toList with
  | nil =>
      rw [hlist] at hname
      cases hname
  | cons first others =>
      rw [hlist, Text.isIdentifierList, Bool.and_eq_true] at hname
      rw [hlist] at hinner
      refine .cons (fun _ => end?_of_isIdentifierStart hname.1 _) (hbegins first ?_) hinner rfl (by simp) ?_ h
      · rw [hlist]
        exact List.mem_cons_self
      · simp

theorem Scans.cons_space {text : List Char} (htext : text.dropWhile Text.isBlank = text)
    (h : Scans brackets text tokens) : Scans brackets (' ' :: text) tokens := by
  intro fuel hfuel
  obtain ⟨fuel, rfl⟩ : ∃ left, fuel = left + 1 := ⟨fuel - 1, by omega⟩
  rw [List.length_cons] at hfuel
  have hopen : (if brackets.isEmpty then end? closePrint false (' ' :: text) else none) = none := ite_self none
  rw [scan]
  · simp only [if_true, hopen, htext, show Text.isBlank ' ' = true from rfl]
    exact h fuel (by omega)
  · exact nofun

theorem scans_end : Scans [] closePrint [.printEnd] := by
  intro fuel hfuel
  obtain ⟨fuel, rfl⟩ : ∃ left, fuel = left + 2 := ⟨fuel - 2, by simp [closePrint] at hfuel; omega⟩
  exact ⟨_, rfl, rfl⟩

theorem tokens_printed {source : String} {text : List Char} (htext : source.toList = openPrint ++ ' ' :: text)
    (hbreaks : '\r' ∉ text) (h : Scans [] (' ' :: text) tokens) :
    ∃ placed, Template.tokens source = .ok placed ∧ placed.map (·.token) = .printBegin :: tokens := by
  have hunified : Text.unifyLinesList source.toList = openPrint ++ ' ' :: text := by
    rw [htext]
    refine Text.unifyLinesList_eq_self ?_
    simp [openPrint, hbreaks]
  obtain ⟨placed, hscan, htokens⟩ := h (text.length + 4) (by simp)
  refine ⟨⟨.printBegin, ' ' :: text⟩ :: placed, ?_, by rw [List.map_cons, htokens]⟩
  rw [Template.tokens, hunified]
  show scan .text [] false (text.length + 4 + 1) (openPrint ++ ' ' :: text) = _
  rw [scan]
  show (do return _ :: (← scan .print [] false (text.length + 4) (' ' :: text))) = _
  rw [hscan]
  rfl

end

/-! Reading from tokens. -/

/-- A step comes to a result and leaves some of the tokens, wherever they stand in a template. -/
def Yields {α : Type} (step : Parse α) (tokens : List Token) (x : α) (rest : List Token) : Prop :=
  ∀ source, (step.run source).run tokens = .ok (x, rest)

/-- The tokens ahead end an expression. -/
inductive Ends : List Token → Prop
  | print (tail : List Token) : Ends (.printEnd :: tail)
  | bracket (tail : List Token) : Ends (.sign ")" :: tail)

section

variable {α β : Type} {step : Parse α} {next : α → Parse β} {tokens between rest : List Token} {x : α} {y : β}
  {e : Expr}

theorem Yields.bind (h : Yields step tokens x between) (hnext : Yields (next x) between y rest) :
    Yields (step >>= next) tokens y rest := by
  intro source
  rw [ReaderT.run_bind, StateT.run_bind, h source]
  exact hnext source

theorem yields_skip {test : Token → Bool} (h : tokens.head?.any test = false) :
    Yields (skip test) tokens false tokens := by
  have hahead : Yields (ahead test) tokens (tokens.head?.any test) tokens := fun _ => rfl
  rw [h] at hahead
  exact hahead.bind fun _ => rfl

theorem yields_operations (hends : Ends rest) (fuel : Nat) (level : Level) (left : Expr) :
    Yields (operations (fuel + 1) level left) rest left rest := by
  intro source
  cases hends <;> cases level <;> rfl

theorem yields_comparisons (hends : Ends rest) (fuel : Nat) : Yields (comparisons (fuel + 1)) rest [] rest := by
  intro source
  cases hends <;> rfl

theorem yields_choices (hends : Ends rest) (fuel : Nat) (start : List Token) (chosen : Expr) :
    Yields (choices (fuel + 1) start chosen) rest chosen rest := by
  intro source
  cases hends <;> rfl

theorem yields_parts (hends : Ends rest) (fuel : Nat) (owner : Expr) :
    Yields (parts (fuel + 1) owner) rest owner rest := by
  intro source
  cases hends <;> rfl

theorem yields_parts_bar (tail : List Token) (fuel : Nat) (owner : Expr) :
    Yields (parts (fuel + 1) owner) (.sign "|" :: tail) owner (.sign "|" :: tail) := fun _ => rfl

theorem yields_filters (hends : Ends rest) (fuel : Nat) (subject : Expr) :
    Yields (filters (fuel + 1) subject) rest subject rest := by
  intro source
  cases hends <;> rfl

theorem yields_operation {fuel : Nat} (level : Level)
    (hlevel : level ∈ [.either, .both, .sum, .join, .product, .power])
    (hends : Ends rest) (h : Yields (operand (fuel + 1) level.tighter) tokens e rest) :
    Yields (operand (fuel + 2) level) tokens e rest := by
  have hboth : Yields (operations (fuel + 1) level =<< operand (fuel + 1) level.tighter) tokens e rest :=
    h.bind (yields_operations hends fuel level e)
  simp only [List.mem_cons, List.not_mem_nil, or_false] at hlevel
  rcases hlevel with rfl | rfl | rfl | rfl | rfl | rfl <;> exact hboth

theorem yields_expression (hstart : tokens.head?.any (Token.isWord "not") = false) (hends : Ends rest) {fuel : Nat}
    (h : Yields (signedOperand fuel true) tokens e rest) : Yields (expression (fuel + 10)) tokens e rest := by
  have hsigned : Yields (operand (fuel + 1) .signed) tokens e rest := h
  have hpower := yields_operation .power (by decide) hends hsigned
  have hproduct := yields_operation .product (by decide) hends hpower
  have hjoin := yields_operation .join (by decide) hends hproduct
  have hsum := yields_operation .sum (by decide) hends hjoin
  have hcomparison : Yields (operand (fuel + 6) .comparison) tokens e rest :=
    hsum.bind ((yields_comparisons hends (fuel + 4)).bind fun _ => rfl)
  have hnot : Yields (skipWord "not") tokens false tokens := yields_skip hstart
  have hnegation : Yields (operand (fuel + 7) .negation) tokens e rest := hnot.bind hcomparison
  have hboth := yields_operation .both (by decide) hends hnegation
  have heither := yields_operation .either (by decide) hends hboth
  have hget : Yields (get : Parse (List Token)) tokens tokens tokens := fun _ => rfl
  exact hget.bind (heither.bind (yields_choices hends (fuel + 8) tokens e))

theorem yields_variable {name : String} (hname : ofName name = .name name) {subject : Expr} {fuel : Nat}
    (hparts : Yields (parts (fuel + 1) (.name name)) tokens subject between)
    (hfilters : Yields (filters (fuel + 1) subject) between e rest) :
    Yields (signedOperand (fuel + 2) true) (.name name :: tokens) e rest := by
  have hprimary : Yields (primary (fuel + 1)) (.name name :: tokens) (.name name) tokens := by
    rw [← hname]
    exact fun _ => rfl
  intro source
  have hunsigned : ((signedOperand (fuel + 2) true).run source).run (.name name :: tokens) =
      ((do
        let subject ← primary (fuel + 1)
        filters (fuel + 1) (← parts (fuel + 1) subject) : Parse Expr).run source).run (.name name :: tokens) := rfl
  rw [hunsigned]
  exact hprimary.bind (hparts.bind hfilters) source

theorem yields_parts_call {owner : Expr} {positional : List Expr} {named : List (String × Expr)} {fuel : Nat}
    (harguments : Yields (arguments fuel) tokens (positional, named) between)
    (h : Yields (parts fuel (.call owner positional named)) between e rest) :
    Yields (parts (fuel + 1) owner) (.sign "(" :: tokens) e rest := by
  intro source
  have hcalled : ((parts (fuel + 1) owner).run source).run (.sign "(" :: tokens) =
      ((do
        let given ← arguments fuel
        parts fuel (.call owner given.1 given.2) : Parse Expr).run source).run tokens := rfl
  rw [hcalled]
  exact harguments.bind h source

theorem yields_filters_name (hends : Ends rest) (fuel : Nat) (subject : Expr) (name : String) :
    Yields (filters (fuel + 2) subject) (.sign "|" :: .name name :: rest) (.filter subject name [] []) rest := by
  intro source
  cases hends <;> rfl

theorem yields_arguments {name : String} {fuel : Nat}
    (h : Yields (expression fuel) (.name name :: .sign ")" :: tokens) e (.sign ")" :: tokens)) :
    Yields (arguments (fuel + 1)) (.name name :: .sign ")" :: tokens) ([e], []) tokens := by
  intro source
  have hfirst : ((arguments (fuel + 1)).run source).run (.name name :: .sign ")" :: tokens) =
      ((do
        let value ← expression fuel
        if ← skipSign ")" then return ([value], [])
        else
          expect (Token.isSign ",")
          let others ← arguments fuel
          return (value :: others.1, others.2) : Parse (List Expr × List (String × Expr))).run source).run
            (.name name :: .sign ")" :: tokens) := rfl
  rw [hfirst]
  exact (h.bind fun _ => rfl) source

theorem yields_tuple {name : String} {fuel : Nat}
    (h : Yields (expression fuel) (.name name :: tokens) e [.printEnd]) :
    Yields (tuple (fuel + 1) true false Token.endsTuple) (.name name :: tokens) e [.printEnd] := by
  intro source
  have hfirst : ((tuple (fuel + 1) true false Token.endsTuple).run source).run (.name name :: tokens) =
      ((do
        let first ← expression fuel
        if ← ahead (Token.isSign ",") then
          return .tuple (first :: (← moreItems fuel true Token.endsTuple))
        else return first : Parse Expr).run source).run (.name name :: tokens) := rfl
  rw [hfirst]
  exact (h.bind fun _ => rfl) source

theorem yields_nodes {fuel : Nat} (h : Yields (readTuple true Token.endsTuple) tokens e [.printEnd]) :
    Yields (nodes (fuel + 2) []) (.printBegin :: tokens) [.print e] [] := by
  intro source
  have hfirst : ((nodes (fuel + 2) []).run source).run (.printBegin :: tokens) =
      ((do
        let e ← readTuple true Token.endsTuple
        expect Token.isPrintEnd
        return .print e :: (← nodes (fuel + 1) []) : Parse (List Node)).run source).run tokens := rfl
  rw [hfirst]
  exact (h.bind fun _ => rfl) source

theorem budget_cons (token : Token) (tokens : List Token) : ∃ left, budget (token :: tokens) = left + 26 := by
  refine ⟨20 * tokens.length + 14, ?_⟩
  rw [budget, List.length_cons]
  omega

theorem yields_printed {name : String} (hname : IsVariable name)
    (h : ∀ fuel, Yields (signedOperand (fuel + 15) true) (.name name :: tokens) e [.printEnd]) :
    Yields (readTuple true Token.endsTuple) (.name name :: tokens) e [.printEnd] := by
  obtain ⟨left, hbudget⟩ := budget_cons (.name name) tokens
  have htuple := yields_tuple (yields_expression hname.not_negation (.print []) (h left))
  have hget : Yields (get : Parse (List Token)) (.name name :: tokens) (.name name :: tokens)
    (.name name :: tokens) := fun _ => rfl
  refine hget.bind ?_
  rw [hbudget]
  exact htuple

theorem parse_of_tokens {source : String} {placed : List Placed} (hplaced : Template.tokens source = .ok placed)
    (htokens : placed.map (·.token) = .printBegin :: tokens)
    (h : Yields (readTuple true Token.endsTuple) tokens e [.printEnd]) : parse source = .ok [.print e] := by
  obtain ⟨left, hbudget⟩ := budget_cons .printBegin tokens
  have hnodes : Yields (nodes (left + 26) []) (.printBegin :: tokens) [.print e] [] := yields_nodes h
  rw [parse, hplaced]
  simp only [bind, Except.bind, htokens, hbudget]
  rw [hnodes]
  rfl

end

section

variable {name argument : String}

theorem parse_call (hname : IsVariable name) (hargument : IsVariable argument) :
    parse (Platform.printed (name ++ "(" ++ argument ++ ")")) =
      .ok [.print (.call (.name name) [.name argument] [])] := by
  have hclose : Scans [")"] (')' :: ' ' :: closePrint) [.sign ")", .printEnd] :=
    .cons nofun rfl rfl rfl (by simp) (Nat.le_refl _) (scans_end.cons_space rfl)
  have hopen : Scans [] ('(' :: (argument.toList ++ ')' :: ' ' :: closePrint))
      [.sign "(", .name argument, .sign ")", .printEnd] :=
    .cons (fun _ => rfl) rfl rfl rfl (by simp) (Nat.le_refl _) (hclose.cons_name hargument.identifier (by decide))
  have hscans := (hopen.cons_name hname.identifier (by decide)).cons_space (hname.dropWhile_blank _)
  have hsource : (Platform.printed (name ++ "(" ++ argument ++ ")")).toList =
      openPrint ++ ' ' :: (name.toList ++ '(' :: (argument.toList ++ ')' :: ' ' :: closePrint)) := by
    simp [Platform.printed, openPrint, closePrint]
  have hbreaks : '\r' ∉ name.toList ++ '(' :: (argument.toList ++ ')' :: ' ' :: closePrint) := by
    simp [hname.no_return, hargument.no_return, closePrint]
  obtain ⟨placed, hplaced, htokens⟩ := tokens_printed hsource hbreaks hscans
  refine parse_of_tokens hplaced htokens (yields_printed hname fun fuel => ?_)
  have hread : Yields (expression (fuel + 12)) (.name argument :: .sign ")" :: [.printEnd]) (.name argument)
      (.sign ")" :: [.printEnd]) :=
    yields_expression hargument.not_negation (.bracket _) <|
      yields_variable hargument.ofName (yields_parts (.bracket _) _ _) (yields_filters (.bracket _) _ _)
  have hcall := yields_parts_call (yields_arguments hread)
    (yields_parts (.print []) _ (.call (.name name) [.name argument] []))
  exact yields_variable hname.ofName hcall (yields_filters (.print []) _ _)

theorem parse_filter (hname : IsVariable name) (hargument : IsVariable argument) :
    parse (Platform.printed (argument ++ " | " ++ name)) = .ok [.print (.filter (.name argument) name [] [])] := by
  have hfilter := (scans_end.cons_space rfl).cons_name hname.identifier (by decide)
  have hbar : Scans [] ('|' :: ' ' :: (name.toList ++ ' ' :: closePrint)) [.sign "|", .name name, .printEnd] :=
    .cons (fun _ => rfl) rfl rfl rfl (by simp) (Nat.le_refl _) (hfilter.cons_space (hname.dropWhile_blank _))
  have hsubject := (hbar.cons_space rfl).cons_name hargument.identifier (by decide)
  have hscans := hsubject.cons_space (hargument.dropWhile_blank _)
  have hsource : (Platform.printed (argument ++ " | " ++ name)).toList =
      openPrint ++ ' ' :: (argument.toList ++ ' ' :: '|' :: ' ' :: (name.toList ++ ' ' :: closePrint)) := by
    simp [Platform.printed, openPrint, closePrint]
  have hbreaks : '\r' ∉ argument.toList ++ ' ' :: '|' :: ' ' :: (name.toList ++ ' ' :: closePrint) := by
    simp [hname.no_return, hargument.no_return, closePrint]
  obtain ⟨placed, hplaced, htokens⟩ := tokens_printed hsource hbreaks hscans
  refine parse_of_tokens hplaced htokens (yields_printed hargument fun fuel => ?_)
  have hparts : Yields (parts (fuel + 14) (.name argument)) (.sign "|" :: .name name :: [.printEnd]) (.name argument)
      (.sign "|" :: .name name :: [.printEnd]) := yields_parts_bar _ _ _
  exact yields_variable hargument.ofName hparts (yields_filters_name (.print []) _ _ _)

end

end Codegen.Template
