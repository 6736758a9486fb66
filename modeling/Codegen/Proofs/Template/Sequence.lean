import Codegen.Proofs.Template.Reading
import Codegen.Template.Document
import Mathlib.Tactic.Common

/-! Templates whose text is known. What they are taken apart into is worked out, and compared with the
nodes that are expected. -/

namespace Codegen.Template

/-- Whether two expressions are made of the same names and texts, their parts, and filters with at most
one argument. -/
def Expr.isSame : Expr → Expr → Bool
  | .constant (.text s), .constant (.text t) => s = t
  | .name s, .name t => s = t
  | .part owner s, .part owner' t => owner.isSame owner' && s = t
  | .filter subject s [] [], .filter subject' t [] [] => subject.isSame subject' && s = t
  | .filter subject s [e] [], .filter subject' t [e'] [] => subject.isSame subject' && s = t && e.isSame e'
  | _, _ => false

mutual

def Node.isSame : Node → Node → Bool
  | .text s, .text t => s = t
  | .print e, .print e' => e.isSame e'
  | .branch condition body otherwise, .branch condition' body' otherwise' =>
    condition.isSame condition' && areSame body body' && areSame otherwise otherwise'
  | .loop (.one s) source none body otherwise, .loop (.one t) source' none body' otherwise' =>
    s = t && source.isSame source' && areSame body body' && areSame otherwise otherwise'
  | .inclusion source ignoresMissing sharesScope, .inclusion source' ignoresMissing' sharesScope' =>
    source.isSame source' && ignoresMissing = ignoresMissing' && sharesScope = sharesScope'
  | _, _ => false

def areSame : List Node → List Node → Bool
  | [], [] => true
  | node :: rest, node' :: rest' => node.isSame node' && areSame rest rest'
  | _, _ => false

end

theorem Expr.eq_of_isSame {e e' : Expr} (h : e.isSame e' = true) : e = e' := by
  fun_induction Expr.isSame e e' with
  | case1 s t => rw [of_decide_eq_true h]
  | case2 s t => rw [of_decide_eq_true h]
  | case3 owner s owner' t ih =>
      obtain ⟨howner, hname⟩ := Bool.and_eq_true_iff.mp h
      rw [ih howner, of_decide_eq_true hname]
  | case4 subject s subject' t ih =>
      obtain ⟨hsubject, hname⟩ := Bool.and_eq_true_iff.mp h
      rw [ih hsubject, of_decide_eq_true hname]
  | case5 subject s e subject' t e' ihsubject ihargument =>
      obtain ⟨hboth, hargument⟩ := Bool.and_eq_true_iff.mp h
      obtain ⟨hsubject, hname⟩ := Bool.and_eq_true_iff.mp hboth
      rw [ihsubject hsubject, of_decide_eq_true hname, ihargument hargument]
  | case6 => cases h

mutual

theorem Node.eq_of_isSame : ∀ {node node' : Node}, node.isSame node' = true → node = node'
  | .text s, .text t, h => by
      rw [Node.isSame] at h
      rw [of_decide_eq_true h]
  | .print e, .print e', h => by
      rw [Node.isSame] at h
      rw [Expr.eq_of_isSame h]
  | .branch condition body otherwise, .branch condition' body' otherwise', h => by
      rw [Node.isSame, Bool.and_eq_true, Bool.and_eq_true] at h
      obtain ⟨⟨hcondition, hbody⟩, hotherwise⟩ := h
      rw [Expr.eq_of_isSame hcondition, eq_of_areSame hbody, eq_of_areSame hotherwise]
  | .loop (.one s) source none body otherwise, .loop (.one t) source' none body' otherwise', h => by
      rw [Node.isSame, Bool.and_eq_true, Bool.and_eq_true, Bool.and_eq_true] at h
      obtain ⟨⟨⟨hname, hsource⟩, hbody⟩, hotherwise⟩ := h
      rw [of_decide_eq_true hname, Expr.eq_of_isSame hsource, eq_of_areSame hbody,
        eq_of_areSame hotherwise]
  | .inclusion source ignoresMissing sharesScope, .inclusion source' ignoresMissing' sharesScope', h => by
      rw [Node.isSame, Bool.and_eq_true, Bool.and_eq_true] at h
      obtain ⟨⟨hsource, hignores⟩, hshares⟩ := h
      rw [Expr.eq_of_isSame hsource, of_decide_eq_true hignores, of_decide_eq_true hshares]

theorem eq_of_areSame : ∀ {nodes nodes' : List Node}, areSame nodes nodes' = true → nodes = nodes'
  | [], [], _ => rfl
  | node :: rest, node' :: rest', h => by
      rw [areSame, Bool.and_eq_true] at h
      rw [Node.eq_of_isSame h.1, eq_of_areSame h.2]

end

def parseList (text : List Char) : Except Failure (List Node) := do
  let unified := Text.unifyLinesList text
  let placed ← scan .text [] false (unified.length + 2) unified
  let tokens := placed.map (·.token)
  let (document, rest) ← ((nodes (budget tokens) []).run ⟨placed, unified.count '\n'⟩).run tokens
  if rest.isEmpty then return document else throw .templateMalformed

theorem parse_eq (source : String) : parse source = parseList source.toList := by
  rw [parse, parseList, tokens, Text.unifyLines, String.toList_ofList]

def parsesInto (text : List Char) (nodes : List Node) : Bool :=
  match parseList text with
  | .ok found => areSame found nodes
  | .error _ => false

theorem parse_eq_of_parsesInto {source : String} {nodes : List Node}
    (h : parsesInto source.toList nodes = true) : parse source = .ok nodes := by
  rw [parse_eq]
  unfold parsesInto at h
  cases hparse : parseList source.toList with
  | error failure =>
      rw [hparse] at h
      cases h
  | ok found =>
      rw [hparse] at h
      rw [eq_of_areSame h]

/-! Templates that are rendered node by node: a sequence makes what its parts make one after another. -/

variable {α β : Type} {streams left : Streams} {include? : Inclusion} {escapes : Bool}
  {scope after : Scope} {text : String}

theorem Eval.bind_ok_iff {step : Eval α} {next : α → Eval β} {y : β} :
    (step >>= next).run streams = .ok (y, left) ↔
      ∃ x between, step.run streams = .ok (x, between) ∧ (next x).run between = .ok (y, left) := by
  rw [StateT.run_bind]
  cases step.run streams with
  | error failure => simp [bind, Except.bind]
  | ok result =>
      obtain ⟨x, between⟩ := result
      constructor
      · intro hnext
        exact ⟨x, between, rfl, hnext⟩
      · rintro ⟨_, _, ⟨⟩, hnext⟩
        exact hnext

theorem Eval.pure_ok_iff {x y : α} :
    (pure x : Eval α).run streams = .ok (y, left) ↔ x = y ∧ streams = left := by
  constructor
  · rintro ⟨⟩
    exact ⟨rfl, rfl⟩
  · rintro ⟨rfl, rfl⟩
    rfl

theorem renderNodes_cons_ok_iff {node : Node} {rest : List Node} :
    (renderNodes include? escapes scope (node :: rest)).run streams = .ok ((text, after), left) ↔
      ∃ first inside between more,
        (node.render include? escapes scope).run streams = .ok ((first, inside), between) ∧
        (renderNodes include? escapes inside rest).run between = .ok ((more, after), left) ∧
        text = first ++ more := by
  rw [renderNodes, Eval.bind_ok_iff]
  constructor
  · rintro ⟨⟨first, inside⟩, between, hfirst, hrest⟩
    obtain ⟨⟨more, last⟩, later, hmore, hlast⟩ := Eval.bind_ok_iff.mp hrest
    obtain ⟨hmade, rfl⟩ := Eval.pure_ok_iff.mp hlast
    obtain ⟨rfl, rfl⟩ := Prod.mk.inj hmade
    exact ⟨first, inside, between, more, hfirst, hmore, rfl⟩
  · rintro ⟨first, inside, between, more, hfirst, hmore, rfl⟩
    exact ⟨_, _, hfirst, Eval.bind_ok_iff.mpr ⟨_, _, hmore, rfl⟩⟩

theorem renderNodes_nil (include? : Inclusion) :
    (renderNodes include? escapes scope []).run streams = .ok (("", scope), streams) := rfl

theorem renderNodes_cons_ok {node : Node} {rest : List Node} {inside : Scope} {between : Streams}
    {more : String} (hnode : (node.render include? escapes scope).run streams = .ok ((text, inside), between))
    (hrest : (renderNodes include? escapes inside rest).run between = .ok ((more, after), left)) :
    (renderNodes include? escapes scope (node :: rest)).run streams = .ok ((text ++ more, after), left) :=
  renderNodes_cons_ok_iff.mpr ⟨text, inside, between, more, hnode, hrest, rfl⟩

theorem renderNodes_append {first second : List Node} {inside : Scope} {between : Streams} {before behind : String}
    (hfirst : (renderNodes include? escapes scope first).run streams = .ok ((before, inside), between))
    (hsecond : (renderNodes include? escapes inside second).run between = .ok ((behind, after), left)) :
    (renderNodes include? escapes scope (first ++ second)).run streams =
      .ok ((before ++ behind, after), left) := by
  induction first generalizing scope streams before with
  | nil =>
      cases hfirst
      rw [String.empty_append]
      exact hsecond
  | cons node rest ih =>
      obtain ⟨made, later, passed, more, hnode, hrest, rfl⟩ := renderNodes_cons_ok_iff.mp hfirst
      rw [String.append_assoc]
      exact renderNodes_cons_ok hnode (ih hrest)

theorem Eval.mapM_ok {γ : Type} {step : γ → Eval β} {result : γ → β} {xs : List γ}
    (h : ∀ x ∈ xs, (step x).run streams = .ok (result x, streams)) :
    (xs.mapM step).run streams = .ok (xs.map result, streams) := by
  induction xs with
  | nil => rfl
  | cons x rest ih =>
      rw [List.mapM_cons, Eval.bind_ok_iff]
      refine ⟨result x, streams, h x List.mem_cons_self, Eval.bind_ok_iff.mpr ⟨rest.map result, streams, ?_, rfl⟩⟩
      exact ih fun y hy => h y (List.mem_cons_of_mem x hy)

theorem Node.render_text (s : String) :
    ((Node.text s).render include? escapes scope).run streams = .ok ((s, scope), streams) := rfl

theorem Node.render_print {e : Expr} {v : Value} (hvalue : (e.evaluate scope).run streams = .ok (v, left))
    (hwritten : v.written scope.model = .ok text) :
    ((Node.print e).render include? false scope).run streams = .ok ((text, scope), left) := by
  rw [Node.render, Eval.bind_ok_iff]
  refine ⟨v, left, hvalue, ?_⟩
  rw [hwritten]
  rfl

theorem Node.render_branch {condition : Expr} {body otherwise : List Node} {v : Value} {outcome : String × Scope}
    (hcondition : (condition.evaluate scope).run streams = .ok (v, streams))
    (hchosen : (renderNodes include? escapes scope (if v.isTrue then body else otherwise)).run streams =
      .ok (outcome, left)) :
    ((Node.branch condition body otherwise).render include? escapes scope).run streams = .ok (outcome, left) := by
  rw [Node.render, Eval.bind_ok_iff]
  refine ⟨v, streams, hcondition, ?_⟩
  split <;> rename_i htrue
  · rwa [if_pos htrue] at hchosen
  · rwa [if_neg htrue] at hchosen

/-- The text of a loop over a list, when each round leaves the streams as they are. Without items it is the
text of what stands in the place of the rounds. -/
theorem Node.render_loop_list {γ : Type} {name : String} {source : Expr} {body otherwise : List Node} {xs : List γ}
    {item : γ → Value} {round : γ → String} {instead : String}
    (hsource : (source.evaluate scope).run streams = .ok (.list (xs.map item), streams))
    (htold : nodesHold (Expr.isNamed roundsName) body = false)
    (hround : ∀ x ∈ xs, ∃ inside,
      (renderNodes include? escapes (scope.bind name (item x)) body).run streams =
        .ok ((round x, inside), streams))
    (hinstead : ∃ inside,
      (renderNodes include? escapes scope otherwise).run streams = .ok ((instead, inside), streams)) :
    ((Node.loop (.one name) source none body otherwise).render include? escapes scope).run streams =
      .ok ((if xs.isEmpty then instead else Text.join "" (xs.map round), scope), streams) := by
  have hrounds : (roundsOf (.one name) none false (roundText include? escapes body) scope
      (.list (xs.map item))).run streams = .ok (xs.map round, streams) := by
    show ((xs.map item).zipIdx.mapM fun (p : Value × Nat) =>
      roundText include? escapes body (scope.bind name p.1)).run streams = _
    have htexts : xs.map round = xs.zipIdx.map (round ∘ Prod.fst) := by
      rw [← List.map_map, List.zipIdx_map_fst]
    rw [List.zipIdx_map, List.mapM_map, htexts]
    refine Eval.mapM_ok fun (x, i) hx => ?_
    obtain ⟨inside, hinside⟩ := hround x (List.fst_mem_of_mem_zipIdx hx)
    exact Eval.bind_ok_iff.mpr ⟨_, streams, hinside, rfl⟩
  rw [Node.render_loop, htold]
  refine Eval.bind_ok_iff.mpr ⟨_, streams, hsource, Eval.bind_ok_iff.mpr ⟨_, streams, hrounds, ?_⟩⟩
  cases xs with
  | nil =>
      obtain ⟨inside, hinside⟩ := hinstead
      exact Eval.bind_ok_iff.mpr ⟨_, streams, hinside, rfl⟩
  | cons x rest => rfl

theorem Node.render_rounds {γ : Type} {name : String} {source : Expr} {body : List Node} {xs : List γ}
    {item : γ → Value} {round : γ → String}
    (hsource : (source.evaluate scope).run streams = .ok (.list (xs.map item), streams))
    (htold : nodesHold (Expr.isNamed roundsName) body = false)
    (hround : ∀ x ∈ xs, ∃ inside,
      (renderNodes include? escapes (scope.bind name (item x)) body).run streams =
        .ok ((round x, inside), streams)) :
    ((Node.loop (.one name) source none body []).render include? escapes scope).run streams =
      .ok ((Text.join "" (xs.map round), scope), streams) := by
  rw [Node.render_loop_list hsource htold hround ⟨scope, renderNodes_nil include?⟩]
  cases xs <;> rfl

/-! Templates that are compiled first. -/

namespace Engine

variable {engine : Engine} {source : String} {nodes : List Node} {compiled : Compiled}

def beforehand (engine : Engine) : Scope :=
  { model := {}, registry := .empty, helpers := engine.helpers, bindings := [] }

theorem compile_of_nodes (hparse : parse source = .ok nodes) (hfold : foldNodes engine.beforehand nodes = nodes)
    (hknown : objectionIn? engine.beforehand false nodes = none)
    (hwritable : nodesHold Expr.isUnwritable nodes = false)
    (hnamed : nodesHold Expr.repeatsName nodes = false) : engine.compile source = .ok ⟨nodes⟩ := by
  rw [beforehand] at hfold hknown
  rw [compile, hparse]
  simp only [bind, Except.bind]
  rw [hfold, hknown]
  dsimp only
  rw [hwritable, hnamed]
  rfl

theorem render_of_compile {m : Model} {r : Mixin.Registry} {bindings : List (String × Value)}
    (hcompile : engine.compile source = .ok ⟨nodes⟩) (hfree : bindings.lookup reservedVariable = none) :
    engine.render m r source bindings =
      finished ((renderNodes (engine.inclusion inclusionDepth) false
        { model := m, registry := r, helpers := engine.helpers, bindings } nodes).run []) := by
  have hany : bindings.any (·.1 = reservedVariable) = false := by
    rw [List.any_eq_false]
    intro entry hentry
    have hother := List.lookup_eq_none_iff.mp hfree entry hentry
    rw [decide_eq_true_eq]
    exact (bne_iff_ne.mp hother).symm
  rw [render, hcompile]
  show engine.renderCompiled m r ⟨nodes⟩ bindings = _
  rw [renderCompiled, hany]
  rfl

theorem render_of_nodes {m : Model} {r : Mixin.Registry} {bindings : List (String × Value)}
    (hparse : parse source = .ok nodes) (hfold : foldNodes engine.beforehand nodes = nodes)
    (hknown : objectionIn? engine.beforehand false nodes = none)
    (hwritable : nodesHold Expr.isUnwritable nodes = false)
    (hnamed : nodesHold Expr.repeatsName nodes = false)
    (hfree : bindings.lookup reservedVariable = none)
    (hnodes : (renderNodes (engine.inclusion inclusionDepth) false
      { model := m, registry := r, helpers := engine.helpers, bindings } nodes).run [] =
        .ok ((text, after), left)) :
    engine.render m r source bindings = .ok text := by
  rw [render_of_compile (compile_of_nodes hparse hfold hknown hwritable hnamed) hfree, hnodes]
  rfl

theorem inclusion_of_nodes {depth : Nat} {name : String}
    (hpartial : engine.partials.lookup name = some source) (hcompile : engine.compile source = .ok ⟨nodes⟩)
    (hnodes : (renderNodes (engine.inclusion depth) (escapesMarkup name) { scope with template := some name }
      nodes).run streams = .ok ((text, after), left)) :
    (engine.inclusion (depth + 1) scope name).run streams = .ok (some text, left) := by
  rw [inclusion]
  dsimp only
  rw [hpartial]
  refine Eval.bind_ok_iff.mpr ⟨⟨nodes⟩, streams, ?_, Eval.bind_ok_iff.mpr ⟨_, left, hnodes, rfl⟩⟩
  rw [hcompile]
  rfl

end Engine

end Codegen.Template
