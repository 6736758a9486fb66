import Codegen.Proofs.Template.Variables
import Codegen.Template.Engine

/-! Templates that are rendered twice, with variables that differ only where the template does not
read them. -/

namespace Codegen.Template

open Codegen.Model

variable {α β γ δ : Type}

/-! Computations side by side. -/

/-- The results of both are related and leave the same in the streams, or both fail alike. -/
inductive AlikeOutcome (related : α → β → Prop) :
    Except Failure (α × Streams) → Except Failure (β × Streams) → Prop
  | ok {a : α} {b : β} (h : related a b) (left : Streams) :
      AlikeOutcome related (.ok (a, left)) (.ok (b, left))
  | error (failure : Failure) : AlikeOutcome related (.error failure) (.error failure)

theorem AlikeOutcome.finished {related : String × Scope → String × Scope → Prop}
    {outcome outcome' : Except Failure ((String × Scope) × Streams)}
    (h : AlikeOutcome related outcome outcome') (hfst : ∀ made made', related made made' → made.1 = made'.1) :
    Engine.finished outcome = Engine.finished outcome' := by
  cases h with
  | ok h left => exact congrArg Except.ok (hfst _ _ h)
  | error failure => rfl

def Alike (related : α → β → Prop) (x : Eval α) (y : Eval β) : Prop :=
  ∀ streams, AlikeOutcome related (x.run streams) (y.run streams)

namespace Alike

variable {related : α → β → Prop} {x : Eval α} {y : Eval β}

theorem pure {a : α} {b : β} (h : related a b) : Alike related (pure a) (pure b) :=
  fun streams => .ok h streams

theorem refl (x : Eval α) : Alike Eq x x := by
  intro streams
  cases x.run streams with
  | ok result => exact .ok rfl result.2
  | error failure => exact .error failure

theorem of_eq {x y : Eval α} (h : x = y) : Alike Eq x y := h ▸ refl x

theorem bind {next : α → Eval γ} {next' : β → Eval δ} {related' : γ → δ → Prop}
    (h : Alike related x y) (hnext : ∀ a b, related a b → Alike related' (next a) (next' b)) :
    Alike related' (x >>= next) (y >>= next') := by
  intro streams
  have hrun := h streams
  rw [StateT.run_bind, StateT.run_bind]
  generalize x.run streams = outcome, y.run streams = outcome' at hrun
  cases hrun with
  | ok hresult left => exact hnext _ _ hresult left
  | error failure => exact .error failure

theorem after (x : Eval α) {next : α → Eval γ} {next' : α → Eval δ} {related' : γ → δ → Prop}
    (hnext : ∀ a, Alike related' (next a) (next' a)) :
    Alike related' (x >>= next) (x >>= next') :=
  (refl x).bind fun a _ h => h ▸ hnext a

theorem given {outcome : Except Failure α} {next : α → Eval γ} {next' : α → Eval δ}
    {related' : γ → δ → Prop} (hnext : ∀ a, outcome = .ok a → Alike related' (next a) (next' a)) :
    Alike related' ((liftM outcome : Eval α) >>= next) ((liftM outcome : Eval α) >>= next') := by
  intro streams
  cases outcome with
  | ok a => exact hnext a rfl streams
  | error failure => exact .error failure

theorem mono {related' : α → β → Prop} (h : Alike related x y)
    (hrelated : ∀ a b, related a b → related' a b) : Alike related' x y := by
  intro streams
  have hrun := h streams
  generalize x.run streams = outcome, y.run streams = outcome' at hrun
  cases hrun with
  | ok hresult left => exact .ok (hrelated _ _ hresult) left
  | error failure => exact .error failure

theorem eq {x y : Eval α} (h : Alike Eq x y) : x = y := by
  funext streams
  have hrun := h streams
  generalize hx : x.run streams = outcome, hy : y.run streams = outcome' at hrun
  refine hx.trans (Eq.trans ?_ hy.symm)
  cases hrun with
  | ok hresult left => rw [hresult]
  | error failure => rfl

end Alike

/-! Binding the same to the names of a target. -/

def Scope.Agree (known : String → Prop) (scope scope' : Scope) : Prop :=
  ∃ bindings, scope' = { scope with bindings } ∧ AgreeOn known scope.bindings bindings

theorem Scope.Agree.mono {known known' : String → Prop} {scope scope' : Scope}
    (h : scope.Agree known scope') (hknown : ∀ name, known' name → known name) :
    scope.Agree known' scope' := by
  obtain ⟨bindings, rfl, hagree⟩ := h
  exact ⟨bindings, rfl, fun name hname => hagree name (hknown name hname)⟩

theorem Scope.Agree.bind {known : String → Prop} {scope scope' : Scope}
    (h : scope.Agree known scope') (name : String) (v : Value) :
    (scope.bind name v).Agree (fun other => known other ∨ name = other) (scope'.bind name v) := by
  obtain ⟨bindings, rfl, hagree⟩ := h
  refine ⟨(name, v) :: bindings, rfl, fun other hother => ?_⟩
  rw [Scope.bind, List.lookup_cons, List.lookup_cons]
  split
  · rfl
  · rename_i hne
    refine hagree other (hother.resolve_right fun heq => ?_)
    simp [heq] at hne

theorem Scope.Agree.inside {known : String → Prop} {scope scope' : Scope}
    (h : scope.Agree known scope') (template : Option String) :
    { scope with template }.Agree known { scope' with template } := by
  obtain ⟨bindings, rfl, hagree⟩ := h
  exact ⟨bindings, rfl, hagree⟩

mutual

theorem Target.bind_alike (v : Value) : ∀ (target : Target) {known : String → Prop}
    {scope scope' : Scope}, scope.Agree known scope' →
      Alike (Scope.Agree fun name => known name ∨ target.binds name = true) (target.bind scope v)
        (target.bind scope' v)
  | .one name, known, scope, scope', h => by
      simp only [Target.bind]
      refine .pure ((h.bind name v).mono fun other hother => ?_)
      simpa [Target.binds] using hother
  | .several targets, known, scope, scope', h => by
      obtain ⟨bindings, rfl, hagree⟩ := h
      simp only [Target.bind, Target.binds]
      exact .after _ fun items => bindEach_alike targets items ⟨bindings, rfl, hagree⟩

theorem bindEach_alike : ∀ (targets : List Target) (items : List Value) {known : String → Prop}
    {scope scope' : Scope}, scope.Agree known scope' →
      Alike (Scope.Agree fun name => known name ∨ targetsBind name targets = true)
        (bindEach scope items targets) (bindEach scope' items targets)
  | [], items, known, scope, scope', h => by
      simp only [bindEach, targetsBind]
      exact .pure (h.mono fun name hname => by simpa using hname)
  | target :: rest, items, known, scope, scope', h => by
      simp only [bindEach, targetsBind]
      refine (target.bind_alike _ h).bind fun inside inside' hinside => ?_
      refine (bindEach_alike rest _ hinside).mono fun after after' hafter => ?_
      exact hafter.mono fun name hname => by simpa [or_assoc] using hname

end

/-! Which variables a template reads. -/

mutual

/-- Whether a node gives a variable a value in any case. -/
def Node.assigns (name : String) : Node → Bool
  | .set target _ => target.binds name
  | .branch _ body otherwise => nodesAssign name body && nodesAssign name otherwise
  | .text _ | .print _ | .loop .. | .inclusion .. => false

def nodesAssign (name : String) : List Node → Bool
  | [] => false
  | node :: rest => node.assigns name || nodesAssign name rest

end

def mayName (part : String) : Value → Bool
  | .text other => other = part
  | .list items | .tuple items => items.any isName
  | _ => true
where
  isName : Value → Bool
    | .text other => other = part
    | _ => false

/-- Whether an inclusion may turn out to be of the template of a name: of any, if the name has to be
worked out. -/
def Expr.mayInclude (part : String) : Expr → Bool
  | .constant v => mayName part v
  | _ => true

def tells (name : String) (body : List Node) : Bool :=
  nodesHold (Expr.isNamed roundsName) body && roundsName = name

mutual

/-- A variable is read in a node: it is named where nothing in the node has given it a value, or in a
partial that may be included there. -/
inductive Node.Reads (engine : Engine) (name : String) : Node → Prop
  | print {e : Expr} (h : e.holds (Expr.isNamed name) = true) : Node.Reads engine name (.print e)
  | set {target : Target} {e : Expr} (h : e.holds (Expr.isNamed name) = true) :
      Node.Reads engine name (.set target e)
  | condition {condition : Expr} {body otherwise : List Node}
      (h : condition.holds (Expr.isNamed name) = true) :
      Node.Reads engine name (.branch condition body otherwise)
  | chosen {condition : Expr} {body otherwise : List Node} (h : NodesRead engine name body) :
      Node.Reads engine name (.branch condition body otherwise)
  | refused {condition : Expr} {body otherwise : List Node} (h : NodesRead engine name otherwise) :
      Node.Reads engine name (.branch condition body otherwise)
  | source {target : Target} {source : Expr} {condition : Option Expr} {body otherwise : List Node}
      (h : source.holds (Expr.isNamed name) = true) :
      Node.Reads engine name (.loop target source condition body otherwise)
  | admission {target : Target} {source condition : Expr} {body otherwise : List Node}
      (htarget : target.binds name = false) (h : condition.holds (Expr.isNamed name) = true) :
      Node.Reads engine name (.loop target source (some condition) body otherwise)
  | round {target : Target} {source : Expr} {condition : Option Expr} {body otherwise : List Node}
      (htarget : target.binds name = false) (htells : tells name body = false)
      (h : NodesRead engine name body) :
      Node.Reads engine name (.loop target source condition body otherwise)
  | noRound {target : Target} {source : Expr} {condition : Option Expr} {body otherwise : List Node}
      (h : NodesRead engine name otherwise) :
      Node.Reads engine name (.loop target source condition body otherwise)
  | inclusion {source : Expr} {ignoresMissing sharesScope : Bool}
      (h : source.holds (Expr.isNamed name) = true) :
      Node.Reads engine name (.inclusion source ignoresMissing sharesScope)
  | included {source : Expr} {ignoresMissing : Bool} {part text : String} {compiled : Compiled}
      (hpart : source.mayInclude part = true) (htext : engine.partials.lookup part = some text)
      (hcompiled : engine.compile text = .ok compiled) (h : NodesRead engine name compiled.nodes) :
      Node.Reads engine name (.inclusion source ignoresMissing true)

inductive NodesRead (engine : Engine) (name : String) : List Node → Prop
  | head {node : Node} {rest : List Node} (h : node.Reads engine name) :
      NodesRead engine name (node :: rest)
  | tail {node : Node} {rest : List Node} (hnode : node.assigns name = false)
      (h : NodesRead engine name rest) : NodesRead engine name (node :: rest)

end

def Engine.PartialReads (engine : Engine) (name part : String) : Prop :=
  ∃ text compiled, engine.partials.lookup part = some text ∧ engine.compile text = .ok compiled ∧
    NodesRead engine name compiled.nodes

def Engine.Respects (engine : Engine) (include? : Inclusion) : Prop :=
  ∀ scope scope' part, Scope.Agree (engine.PartialReads · part) scope scope' →
    include? scope part = include? scope' part

section

variable {engine : Engine} {include? : Inclusion} {known : String → Prop} {scope scope' : Scope}

theorem firstIncluded_congr (hinclude : engine.Respects include?) {names : List Value}
    (h : ∀ part, .text part ∈ names → scope.Agree (engine.PartialReads · part) scope')
    (hmodel : scope'.model = scope.model) :
    firstIncluded? include? scope names = firstIncluded? include? scope' names := by
  induction names with
  | nil => rfl
  | cons v rest ih =>
      have hrest := ih fun part hpart => h part (List.mem_cons_of_mem v hpart)
      cases v with
      | text part =>
          simp only [firstIncluded?, hinclude scope scope' part (h part List.mem_cons_self), hrest]
      | _ => simp only [firstIncluded?, hrest, hmodel]

theorem mayName_of_mem {part : String} {items : List Value} (h : .text part ∈ items) :
    items.any (mayName.isName part) = true :=
  List.any_eq_true.mpr ⟨_, h, by simp [mayName.isName]⟩

theorem included_congr (hinclude : engine.Respects include?) (ignoresMissing : Bool)
    {sharesScope : Bool} {source : Value} (h : scope.Agree known scope')
    (hparts : sharesScope = true → ∀ part, mayName part source = true →
      ∀ name, engine.PartialReads name part → known name) :
    included include? scope ignoresMissing sharesScope source =
      included include? scope' ignoresMissing sharesScope source := by
  cases sharesScope with
  | false =>
      obtain ⟨bindings, rfl, _⟩ := h
      rfl
  | true =>
      have hagree : ∀ part, mayName part source = true →
          scope.Agree (engine.PartialReads · part) scope' :=
        fun part hpart => h.mono (hparts rfl part hpart)
      obtain ⟨bindings, rfl, _⟩ := h
      have hfirst := fun names hnames =>
        @firstIncluded_congr engine include? scope { scope with bindings } hinclude names hnames rfl
      cases source with
      | text part =>
          simp only [included, if_true, hinclude _ _ part (hagree part (by simp [mayName]))]
      | list items =>
          have hnames := hfirst items fun part hpart => hagree part (mayName_of_mem hpart)
          have hleft : itemsOf scope.model (.list items) = pure items := rfl
          simp only [included, if_true, hleft, pure_bind, hnames]
      | tuple items =>
          have hnames := hfirst items fun part hpart => hagree part (mayName_of_mem hpart)
          have hleft : itemsOf scope.model (.tuple items) = pure items := rfl
          simp only [included, if_true, hleft, pure_bind, hnames]
      | missing what => rfl
      | _ =>
          have hnames := fun names => hfirst names fun part _ => hagree part rfl
          simp only [included, if_true, hnames]

def roundsOf (target : Target) (condition : Option Expr) (told : Bool) (round : Scope → Eval String)
    (scope : Scope) (v : Value) : Eval (List String) :=
  match v, condition, told with
  | .stream _ number, none, false => do
    streamRounds number (fun item => do round (← target.bind scope item))
      (← Streams.left number).length
  | v, condition, told => do
    let items ← admitted scope target condition (← itemsOf scope.model v)
    items.zipIdx.mapM fun (item, i) => do
      let inside ← target.bind scope item
      round (if told then inside.bind roundsName (loopRecord items i) else inside)

def roundText (include? : Inclusion) (escapes : Bool) (body : List Node) (inside : Scope) :
    Eval String := do
  return (← renderNodes include? escapes inside body).1

theorem Node.render_loop (include? : Inclusion) (escapes : Bool) (scope : Scope) (target : Target)
    (source : Expr) (condition : Option Expr) (body otherwise : List Node) :
    (Node.loop target source condition body otherwise).render include? escapes scope = (do
      let v ← source.evaluate scope
      let rounds ← roundsOf target condition (nodesHold (Expr.isNamed roundsName) body)
        (roundText include? escapes body) scope v
      if rounds.isEmpty then return ((← renderNodes include? escapes scope otherwise).1, scope)
      else return (Text.join "" rounds, scope)) := by
  simp only [Node.render]
  congr
  funext v
  generalize nodesHold (Expr.isNamed roundsName) body = told
  unfold roundsOf roundText
  split <;> simp only [bind_assoc]

theorem admitted_congr (target : Target) {condition : Option Expr} (items : List Value)
    (h : scope.Agree known scope') (hcondition : ∀ e ∈ condition, ∀ name,
      e.holds (Expr.isNamed name) = true → known name ∨ target.binds name = true) :
    admitted scope target condition items = admitted scope' target condition items := by
  cases condition with
  | none => rfl
  | some condition =>
      simp only [admitted]
      congr
      funext item
      refine Alike.eq ((target.bind_alike item h).bind fun inside inside' hinside => ?_)
      obtain ⟨bindings, rfl, hagree⟩ := hinside
      rw [condition.evaluate_congr hagree (hcondition condition rfl)]
      exact .refl _

theorem roundsOf_congr (target : Target) {condition : Option Expr} {told : Bool}
    {round : Scope → Eval String} (v : Value) (h : scope.Agree known scope')
    (hcondition : ∀ e ∈ condition, ∀ name,
      e.holds (Expr.isNamed name) = true → known name ∨ target.binds name = true)
    (hround : ∀ inside inside' : Scope, inside.Agree (fun name =>
      (known name ∨ target.binds name = true) ∨ (told && roundsName = name) = true) inside' →
        round inside = round inside') :
    roundsOf target condition told round scope v = roundsOf target condition told round scope' v := by
  have hadmitted := fun items => admitted_congr target items h hcondition
  have hbind : ∀ item, Alike (Scope.Agree fun name => known name ∨ target.binds name = true)
      (target.bind scope item) (target.bind scope' item) := fun item => target.bind_alike item h
  obtain ⟨bindings, rfl, _⟩ := h
  unfold roundsOf
  split
  · refine Alike.eq (.after _ fun left => ?_)
    have hsame : (fun item => target.bind scope item >>= round) =
        fun item => target.bind { scope with bindings } item >>= round := by
      funext item
      refine Alike.eq ((hbind item).bind fun inside inside' hinside => ?_)
      exact .of_eq (hround inside inside' (hinside.mono fun name hname => by simpa using hname))
    exact .of_eq (by rw [hsame])
  · refine Alike.eq (.after _ fun items => ?_)
    rw [hadmitted]
    refine .after _ fun items => .of_eq ?_
    congr
    funext ⟨item, i⟩
    refine Alike.eq ((hbind item).bind fun inside inside' hinside => ?_)
    refine .of_eq (hround _ _ ?_)
    cases told with
    | true =>
        exact (hinside.bind roundsName (loopRecord items i)).mono fun name hname => by simpa using hname
    | false => exact hinside.mono fun name hname => by simpa using hname

mutual

theorem Node.render_alike (hinclude : engine.Respects include?) (escapes : Bool) :
    ∀ (node : Node) {known : String → Prop} {scope scope' : Scope},
      (∀ name, node.Reads engine name → known name) → scope.Agree known scope' →
        Alike (fun made made' => made.1 = made'.1 ∧
            made.2.Agree (fun name => known name ∨ node.assigns name = true) made'.2)
          (node.render include? escapes scope) (node.render include? escapes scope')
  | .text s, known, scope, scope', hreads, h => by
      simp only [Node.render, Node.assigns]
      exact .pure ⟨rfl, h.mono (by simp)⟩
  | .print e, known, scope, scope', hreads, h => by
      obtain ⟨bindings, rfl, hagree⟩ := h
      simp only [Node.render, Node.assigns]
      rw [e.evaluate_congr hagree fun name hname => hreads name (.print hname)]
      refine .after _ fun v => .after _ fun text => .pure ⟨rfl, ⟨bindings, rfl, ?_⟩⟩
      simpa using hagree
  | .set target e, known, scope, scope', hreads, h => by
      obtain ⟨bindings, rfl, hagree⟩ := h
      simp only [Node.render, Node.assigns]
      rw [e.evaluate_congr hagree fun name hname => hreads name (.set hname)]
      refine .after _ fun v => ?_
      exact (target.bind_alike v ⟨bindings, rfl, hagree⟩).bind fun inside inside' hinside =>
        .pure ⟨rfl, hinside⟩
  | .branch condition body otherwise, known, scope, scope', hreads, h => by
      obtain ⟨bindings, rfl, hagree⟩ := h
      simp only [Node.render, Node.assigns]
      rw [condition.evaluate_congr hagree fun name hname => hreads name (.condition hname)]
      refine .after _ fun v => ?_
      split
      · refine (renderNodes_alike hinclude escapes body (fun name hname => hreads name (.chosen hname))
          ⟨bindings, rfl, hagree⟩).mono fun made made' hmade => ⟨hmade.1, hmade.2.mono fun name => ?_⟩
        simp only [Bool.and_eq_true]
        exact Or.imp_right And.left
      · refine (renderNodes_alike hinclude escapes otherwise
          (fun name hname => hreads name (.refused hname)) ⟨bindings, rfl, hagree⟩).mono
            fun made made' hmade => ⟨hmade.1, hmade.2.mono fun name => ?_⟩
        simp only [Bool.and_eq_true]
        exact Or.imp_right And.right
  | .loop target source condition body otherwise, known, scope, scope', hreads, h => by
      have hotherwise := renderNodes_alike hinclude escapes otherwise
        (fun name hname => hreads name (.noRound hname)) h
      have hrounds : ∀ v, roundsOf target condition (nodesHold (Expr.isNamed roundsName) body)
          (roundText include? escapes body) scope v =
            roundsOf target condition (nodesHold (Expr.isNamed roundsName) body)
              (roundText include? escapes body) scope' v := by
        refine fun v => roundsOf_congr target v h ?condition ?round
        case condition =>
          rintro e rfl name hname
          cases htarget : target.binds name with
          | true => exact .inr rfl
          | false => exact .inl (hreads name (.admission htarget hname))
        case round =>
          -- In a round the target is known, and so is the record of the rounds where there is one.
          intro inside inside' hinside
          refine Alike.eq ((renderNodes_alike hinclude escapes body (fun name hname => ?_) hinside).bind
            fun made made' hmade => .pure hmade.1)
          cases htarget : target.binds name with
          | true => exact .inl (.inr rfl)
          | false =>
              cases htells : tells name body with
              | true => exact .inr htells
              | false => exact .inl (.inl (hreads name (.round htarget htells hname)))
      obtain ⟨bindings, rfl, hagree⟩ := h
      rw [Node.render_loop, Node.render_loop,
        source.evaluate_congr hagree fun name hname => hreads name (.source hname)]
      refine .after _ fun v => ?_
      rw [hrounds]
      refine .after _ fun rounds => ?_
      have hscope : scope.Agree (fun name => known name ∨ false = true) { scope with bindings } :=
        ⟨bindings, rfl, by simpa using hagree⟩
      split
      · exact hotherwise.bind fun made made' hmade => .pure ⟨hmade.1, hscope⟩
      · exact .pure ⟨rfl, hscope⟩
  | .inclusion source ignoresMissing sharesScope, known, scope, scope', hreads, h => by
      have hincluded := fun v hparts =>
        @included_congr _ _ _ _ _ hinclude ignoresMissing sharesScope v h hparts
      obtain ⟨bindings, rfl, hagree⟩ := h
      simp only [Node.render, Node.assigns]
      rw [source.evaluate_congr hagree fun name hname => hreads name (.inclusion hname)]
      -- A source that is written down is its own value; of any other, every partial may come.
      have hparts : ∀ part, source.mayInclude part = true → sharesScope = true →
          ∀ name, engine.PartialReads name part → known name := by
        rintro part hpart rfl name ⟨text, compiled, htext, hcompiled, hnodes⟩
        exact hreads name (.included hpart htext hcompiled hnodes)
      have hscope : scope.Agree (fun name => known name ∨ false = true) { scope with bindings } :=
        ⟨bindings, rfl, by simpa using hagree⟩
      cases source with
      | constant v =>
          simp only [Expr.evaluate, pure_bind]
          rw [hincluded v fun hshares part hpart => hparts part hpart hshares]
          exact .after _ fun text => .pure ⟨rfl, hscope⟩
      | _ =>
          refine .after _ fun v => ?_
          rw [hincluded v fun hshares part _ => hparts part rfl hshares]
          exact .after _ fun text => .pure ⟨rfl, hscope⟩

theorem renderNodes_alike (hinclude : engine.Respects include?) (escapes : Bool) :
    ∀ (nodes : List Node) {known : String → Prop} {scope scope' : Scope},
      (∀ name, NodesRead engine name nodes → known name) → scope.Agree known scope' →
        Alike (fun made made' => made.1 = made'.1 ∧
            made.2.Agree (fun name => known name ∨ nodesAssign name nodes = true) made'.2)
          (renderNodes include? escapes scope nodes) (renderNodes include? escapes scope' nodes)
  | [], known, scope, scope', hreads, h => by
      simp only [renderNodes, nodesAssign]
      exact .pure ⟨rfl, h.mono (by simp)⟩
  | node :: rest, known, scope, scope', hreads, h => by
      simp only [renderNodes, nodesAssign]
      -- What the first node gives a value is known to those after it, in addition to what was known.
      have hnode := node.render_alike hinclude escapes (fun name hname => hreads name (.head hname)) h
      refine hnode.bind fun made made' hmade => ?_
      obtain ⟨htext, hscope⟩ := hmade
      have hrest := @renderNodes_alike hinclude escapes rest
        (fun name => known name ∨ node.assigns name = true) _ _ (fun name hname => ?_) hscope
      · refine hrest.bind fun more more' hmore => .pure ⟨?_, ?_⟩
        · rw [htext, hmore.1]
        · exact hmore.2.mono fun name hname => by simpa [or_assoc] using hname
      · cases hassigns : node.assigns name with
        | true => exact .inr rfl
        | false => exact .inl (hreads name (.tail hassigns hname))

end

end

/-! Rendering with an engine. -/

namespace Engine

variable {engine : Engine} {bindings bindings' : List (String × Value)}

theorem respects (engine : Engine) (depth : Nat) : engine.Respects (engine.inclusion depth) := by
  -- A partial is rendered with one inclusion less, so what it includes in turn is the hypothesis.
  induction depth with
  | zero => exact fun _ _ _ _ => rfl
  | succ depth ih =>
      intro scope scope' part h
      simp only [inclusion]
      cases htext : engine.partials.lookup part with
      | none => rfl
      | some text =>
          refine Alike.eq (.given fun compiled hcompiled => ?_)
          refine (renderNodes_alike ih (escapesMarkup part) compiled.nodes (fun name hname => ?_)
            (h.inside (some part))).bind fun made made' hmade => .pure (congrArg some hmade.1)
          exact ⟨text, compiled, htext, hcompiled, hname⟩

/-- A variable is read in the template of a source. -/
def Reads (engine : Engine) (name source : String) : Prop :=
  ∃ compiled, engine.compile source = .ok compiled ∧ NodesRead engine name compiled.nodes

theorem render_congr (m : Model) (r : Mixin.Registry) {source : String}
    (hreserved : bindings.any (·.1 = reservedVariable) = bindings'.any (·.1 = reservedVariable))
    (h : AgreeOn (engine.Reads · source) bindings bindings') :
    engine.render m r source bindings = engine.render m r source bindings' := by
  unfold render
  cases hcompiled : engine.compile source with
  | error failure => rfl
  | ok compiled =>
      have hscopes : Scope.Agree (engine.Reads · source)
          { model := m, registry := r, helpers := engine.helpers, bindings }
          { model := m, registry := r, helpers := engine.helpers, bindings := bindings' } :=
        ⟨bindings', rfl, h⟩
      have hnodes := renderNodes_alike (engine.respects inclusionDepth) false compiled.nodes
        (fun name hname => ⟨compiled, hcompiled, hname⟩) hscopes
      have hrun := (hnodes []).finished fun _ _ hmade => hmade.1
      simp only [renderCompiled, hreserved]
      split
      · rfl
      · exact hrun

theorem render_reserved (m : Model) (r : Mixin.Registry) (source : String)
    (h : bindings.any (·.1 = reservedVariable) = true) :
    engine.render m r source bindings =
      engine.compile source >>= fun _ => .error .variableReserved := by
  unfold render renderCompiled
  rw [h]
  rfl

end Engine

end Codegen.Template
