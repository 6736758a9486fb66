import Codegen.Mixin.Access
import Mathlib.Tactic.Choose

/-!
Reading the members of entities where the properties do anything at all: what they read, they read
through the same reading, and what they cannot read or catch ends them. A property that fails is told
apart from a member that is not there, and the failure from whatever property reads it.
-/

namespace Codegen.Mixin

open Codegen.Model

/-! Reading with something to fall back on. -/

/-- What reading comes to where a default stands in for a member that is not there. -/
def orDefault (result : Except Failure Value) (default : Value) : Except Failure Value :=
  match result with
  | .ok v => .ok v
  | .error failure => if failure.isMissingMember then .ok default else .error failure

/-- Whether a member is there, by the attempt to read it. -/
def isThere (result : Except Failure Value) : Except Failure Bool :=
  match result with
  | .ok _ => .ok true
  | .error failure => if failure.isMissingMember then .ok false else .error failure

def Misses (result : Except Failure Value) : Prop :=
  ∃ failure, result = .error failure ∧ failure.isMissingMember = true

theorem misses_error_iff {failure : Failure} :
    Misses (.error failure) ↔ failure.isMissingMember = true := by
  constructor
  · rintro ⟨other, heq, hmissing⟩
    cases heq
    exact hmissing
  · exact fun h => ⟨failure, rfl, h⟩

theorem not_misses_ok (v : Value) : ¬ Misses (.ok v) := by
  rintro ⟨failure, heq, -⟩
  cases heq

theorem forall_orDefault_iff {result : Except Failure Value} :
    (∀ default, orDefault result default = .ok default) ↔ Misses result := by
  cases result with
  | ok v =>
      refine iff_of_false (fun h => ?_) (not_misses_ok v)
      have hnull : v = .null := Except.ok.inj (h .null)
      have htrue : v = .bool true := Except.ok.inj (h (.bool true))
      cases hnull.symm.trans htrue
  | error failure =>
      rw [misses_error_iff]
      simp only [orDefault]
      cases failure.isMissingMember with
      | true => simp
      | false => simp

theorem isThere_eq_false_iff {result : Except Failure Value} :
    isThere result = .ok false ↔ Misses result := by
  cases result with
  | ok v => exact iff_of_false (fun h => by cases h) (not_misses_ok v)
  | error failure =>
      rw [misses_error_iff]
      simp only [isThere]
      cases failure.isMissingMember with
      | true => simp
      | false => simp

/-! What properties do. -/

/-- What a property does: it comes to a value, fails, or reads a member of some value and goes on with
what it gets; failures of the reading it may catch. -/
inductive Body
  | yields (v : Value)
  | fails (failure : Failure)
  | reads (owner : Value) (name : String) (next : Value → Body) (catches : Failure → Bool)
      (recover : Failure → Body)

namespace Body

def run (read : Reader) : Body → Except Failure Value
  | yields v => .ok v
  | fails failure => .error failure
  | reads owner name next catches recover =>
    match read owner name with
    | .ok v => (next v).run read
    | .error failure => if catches failure then (recover failure).run read else .error failure

def andThen (after : Value → Body) : Body → Body
  | yields v => after v
  | fails failure => .fails failure
  | reads owner name next catches recover =>
    reads owner name (fun v => (next v).andThen after) catches
      (fun failure => (recover failure).andThen after)

theorem run_andThen (read : Reader) (after : Value → Body) (body : Body) :
    (body.andThen after).run read = body.run read >>= fun v => (after v).run read := by
  induction body with
  | yields v => rfl
  | fails failure => rfl
  | reads owner name next catches recover ihnext ihrecover =>
      rw [andThen, run, run]
      cases read owner name with
      | ok v => exact ihnext v
      | error failure =>
          cases hcatches : catches failure with
          | true => simpa [hcatches] using ihrecover failure
          | false => simp [hcatches, Bind.bind, Except.bind]

/-- The conduct of implementations that do what their bodies say. -/
def conduct (bodies : Function Value → Entity → Body) : Conduct :=
  fun read implementation e => (bodies implementation e).run read

end Body

section

variable (m : Model) (r : Registry)

/-- The member that is registered for an entity under a name. -/
def registered? (e : Entity) (name : String) : Option Member :=
  (e.element? m).bind fun element => r.lookup? element.type name

/-- Reading the name from the entity computes a registered property. -/
structure IsProperty (e : Entity) (name : String) (implementation : Function Value) : Prop where
  admissible : Text.hasStart "__" name = false
  notNative : nativeMember? m e name = none
  registered : ∃ member, registered? m r e name = some member ∧ member.isProperty = true ∧
    member.implementation = implementation

/-- How a failure that comes up in a property of an entity is told to whatever reads the property. -/
def told (place : Entity × String) (failure : Failure) : Failure :=
  if failure.isMissingMember then
    .memberFailed place.2 (place.1.typeName m) (place.1.name m) failure.text
  else failure

end

variable {m : Model} {r : Registry}

theorem isMissingMember_told (place : Entity × String) (failure : Failure) :
    (told m place failure).isMissingMember = false := by
  rw [told]
  cases h : failure.isMissingMember with
  | true => rfl
  | false => exact h

theorem told_told (place innermost : Entity × String) (failure : Failure) :
    told m place (told m innermost failure) = told m innermost failure := by
  rw [told, if_neg (by rw [isMissingMember_told]; exact Bool.false_ne_true)]

theorem readEntity_property {conduct : Conduct} {read : Reader} {e : Entity} {name : String}
    {implementation : Function Value} (h : IsProperty m r e name implementation) :
    readEntity m r conduct read e name =
      (conduct read implementation e).mapError (told m (e, name)) := by
  obtain ⟨member, hregistered, hproperty, rfl⟩ := h.registered
  cases helement : e.element? m with
  | none =>
      rw [registered?, helement] at hregistered
      cases hregistered
  | some element =>
      rw [registered?, helement, Option.bind_some] at hregistered
      simp only [readEntity, h.notNative, helement, h.admissible, hregistered, hproperty,
        Bool.false_eq_true, if_false, if_true]
      cases conduct read member.implementation e with
      | ok v => rfl
      | error failure =>
          show _ = Except.error (told m (e, name) failure)
          simp only [told, Entity.typeName, Entity.name, helement]
          split <;> rfl

/-- Only what is neither there by type nor registered is missing: a registered property never ends as
one that is missing. -/
theorem misses_readEntity_iff {conduct : Conduct} {read : Reader} {e : Entity} {name : String}
    (hname : Text.hasStart "__" name = false) :
    Misses (readEntity m r conduct read e name) ↔
      nativeMember? m e name = none ∧ registered? m r e name = none := by
  cases hnative : nativeMember? m e name with
  | some v =>
      have hread : readEntity m r conduct read e name = .ok v := by rw [readEntity, hnative]
      rw [hread]
      exact iff_of_false (not_misses_ok v) (fun h => by cases h.1)
  | none =>
      cases hregistered : registered? m r e name with
      | none =>
          refine iff_of_true ?_ ⟨rfl, rfl⟩
          cases helement : e.element? m with
          | none =>
              simp only [readEntity, hnative, helement]
              exact misses_error_iff.mpr rfl
          | some element =>
              rw [registered?, helement, Option.bind_some] at hregistered
              simp only [readEntity, hnative, helement, hname, hregistered]
              exact misses_error_iff.mpr rfl
      | some member =>
          refine iff_of_false ?_ (fun h => by cases h.2)
          cases hproperty : member.isProperty with
          | true =>
              rw [readEntity_property ⟨hname, hnative, member, hregistered, hproperty, rfl⟩]
              cases conduct read member.implementation e with
              | ok v => exact not_misses_ok v
              | error failure =>
                  refine fun h => Bool.false_ne_true ?_
                  rw [← isMissingMember_told (m := m) (e, name) failure]
                  exact misses_error_iff.mp h
          | false =>
              cases helement : e.element? m with
              | none =>
                  rw [registered?, helement] at hregistered
                  cases hregistered
              | some element =>
                  rw [registered?, helement, Option.bind_some] at hregistered
                  simp only [readEntity, hnative, helement, hname, hregistered, hproperty,
                    Bool.false_eq_true, if_false]
                  exact not_misses_ok _

/-! Where a failure comes up. -/

/-- Running a body of the property at `place`, with `depth` more properties to nest, ends in a failure
that came up in the body of the property `innermost`: it is raised there, or comes of reading there what
is no property. -/
inductive Body.ComesUp (m : Model) (r : Registry) (bodies : Function Value → Entity → Body) :
    (depth : Nat) → (place : Entity × String) → Body → (innermost : Entity × String) → Failure → Prop
  | raised {depth place failure} : ComesUp m r bodies depth place (.fails failure) place failure
  | missed {depth place owner name next catches recover failure}
      (hother : ∀ e implementation, depth ≠ 0 → owner = .entity e →
        ¬ IsProperty m r e name implementation)
      (hread : readWithin m r (conduct bodies) depth owner name = .error failure)
      (hcatches : catches failure = false) :
      ComesUp m r bodies depth place (.reads owner name next catches recover) place failure
  | nested {depth place e name implementation next catches recover innermost failure}
      (hproperty : IsProperty m r e name implementation)
      (hbody : ComesUp m r bodies depth (e, name) (bodies implementation e) innermost failure)
      (hcatches : catches (told m innermost failure) = false) :
      ComesUp m r bodies (depth + 1) place (.reads (.entity e) name next catches recover) innermost
        failure
  | next {depth place owner name next catches recover v innermost failure}
      (hread : readWithin m r (conduct bodies) depth owner name = .ok v)
      (hnext : ComesUp m r bodies depth place (next v) innermost failure) :
      ComesUp m r bodies depth place (.reads owner name next catches recover) innermost failure
  | recovered {depth place owner name next catches recover caught innermost failure}
      (hread : readWithin m r (conduct bodies) depth owner name = .error caught)
      (hcatches : catches caught = true)
      (hrecover : ComesUp m r bodies depth place (recover caught) innermost failure) :
      ComesUp m r bodies depth place (.reads owner name next catches recover) innermost failure

namespace Body

variable {bodies : Function Value → Entity → Body} {depth : Nat} {e : Entity} {name : String}

theorem readWithin_property {implementation : Function Value}
    (h : IsProperty m r e name implementation) :
    readWithin m r (conduct bodies) (depth + 1) (.entity e) name =
      ((bodies implementation e).run (readWithin m r (conduct bodies) depth)).mapError
        (told m (e, name)) :=
  readEntity_property h

theorem readWithin_property_eq_error_iff {implementation : Function Value} {shown : Failure}
    (h : IsProperty m r e name implementation) :
    readWithin m r (conduct bodies) (depth + 1) (.entity e) name = .error shown ↔
      ∃ raw, (bodies implementation e).run (readWithin m r (conduct bodies) depth) = .error raw ∧
        shown = told m (e, name) raw := by
  rw [readWithin_property h]
  cases (bodies implementation e).run (readWithin m r (conduct bodies) depth) with
  | ok v => exact iff_of_false (fun h => by cases h) (fun ⟨_, h, _⟩ => by cases h)
  | error raw =>
      constructor
      · intro heq
        exact ⟨raw, rfl, (Except.error.inj heq).symm⟩
      · rintro ⟨_, heq, rfl⟩
        cases heq
        rfl

theorem ComesUp.run_eq {place innermost : Entity × String} {body : Body} {failure : Failure}
    (h : ComesUp m r bodies depth place body innermost failure) :
    ∃ shown, body.run (readWithin m r (conduct bodies) depth) = .error shown ∧
      told m place shown = told m innermost failure := by
  induction h with
  | raised => exact ⟨_, rfl, rfl⟩
  | missed hother hread hcatches =>
      refine ⟨_, ?_, rfl⟩
      rw [run, hread]
      exact if_neg (hcatches ▸ Bool.false_ne_true)
  | @nested depth place e name implementation next catches recover innermost failure
      hproperty hbody hcatches ih =>
      obtain ⟨shown, hrun, htold⟩ := ih
      refine ⟨told m innermost failure, ?_, told_told place innermost failure⟩
      have hread : readWithin m r (conduct bodies) (depth + 1) (.entity e) name =
          .error (told m innermost failure) := by
        rw [readWithin_property hproperty, hrun, ← htold]
        rfl
      rw [run, hread]
      exact if_neg (hcatches ▸ Bool.false_ne_true)
  | next hread hnext ih =>
      obtain ⟨shown, hrun, htold⟩ := ih
      refine ⟨shown, ?_, htold⟩
      rw [run, hread]
      exact hrun
  | recovered hread hcatches hrecover ih =>
      obtain ⟨shown, hrun, htold⟩ := ih
      refine ⟨shown, ?_, htold⟩
      rw [run, hread]
      exact (if_pos hcatches).trans hrun

/-- Whatever a body fails with came up somewhere. The induction is on how deep properties still nest,
and for each depth on the body. -/
theorem exists_comesUp {place : Entity × String} {body : Body} {shown : Failure}
    (h : body.run (readWithin m r (conduct bodies) depth) = .error shown) :
    ∃ innermost failure, ComesUp m r bodies depth place body innermost failure ∧
      told m place shown = told m innermost failure := by
  induction depth using Nat.strongRecOn generalizing place body shown with
  | ind depth ihdepth =>
      induction body with
      | yields v => cases h
      | fails failure =>
          obtain rfl : failure = shown := Except.error.inj h
          exact ⟨place, failure, .raised, rfl⟩
      | reads owner name next catches recover ihnext ihrecover =>
          rw [run] at h
          cases hread : readWithin m r (conduct bodies) depth owner name with
          | ok v =>
              rw [hread] at h
              obtain ⟨innermost, failure, hcomes, htold⟩ := ihnext v h
              exact ⟨innermost, failure, .next hread hcomes, htold⟩
          | error failure =>
              rw [hread] at h
              cases hcatches : catches failure with
              | true =>
                  obtain ⟨innermost, cause, hcomes, htold⟩ :=
                    ihrecover failure ((if_pos hcatches).symm.trans h)
                  exact ⟨innermost, cause, .recovered hread hcatches hcomes, htold⟩
              | false =>
                  obtain rfl : failure = shown :=
                    Except.error.inj ((if_neg (hcatches ▸ Bool.false_ne_true)).symm.trans h)
                  by_cases hproperty : ∃ e implementation, depth ≠ 0 ∧ owner = .entity e ∧
                      IsProperty m r e name implementation
                  · obtain ⟨e, implementation, hdepth, rfl, hproperty⟩ := hproperty
                    obtain ⟨depth, rfl⟩ := Nat.exists_eq_succ_of_ne_zero hdepth
                    obtain ⟨raw, hrun, rfl⟩ := (readWithin_property_eq_error_iff hproperty).mp hread
                    obtain ⟨innermost, cause, hcomes, htold⟩ : ∃ innermost cause,
                        ComesUp m r bodies depth (e, name) (bodies implementation e) innermost
                          cause ∧ told m (e, name) raw = told m innermost cause :=
                      ihdepth depth (Nat.lt_succ_self depth) hrun
                    rw [htold] at hcatches ⊢
                    exact ⟨innermost, cause, .nested hproperty hcomes hcatches, told_told _ _ _⟩
                  · refine ⟨place, failure, .missed (fun e implementation hdepth howner his => ?_)
                      hread hcatches, rfl⟩
                    exact hproperty ⟨e, implementation, hdepth, howner, his⟩

end Body

/-! The implementations that are registered have bodies as well. -/

def HasBody (compute : Reader → Except Failure Value) : Prop :=
  ∃ body : Body, ∀ read, body.run read = compute read

namespace HasBody

theorem const (result : Except Failure Value) : HasBody fun _ => result := by
  cases result with
  | ok v => exact ⟨.yields v, fun _ => rfl⟩
  | error failure => exact ⟨.fails failure, fun _ => rfl⟩

theorem read (v : Value) (name : String) : HasBody fun read => read v name := by
  refine ⟨.reads v name .yields (fun _ => false) .fails, fun read => ?_⟩
  show _ = read v name
  rw [Body.run]
  cases read v name with
  | ok v => rfl
  | error failure => rfl

theorem bind {first : Reader → Except Failure Value} {next : Value → Reader → Except Failure Value}
    (hfirst : HasBody first) (hnext : ∀ v, HasBody (next v)) :
    HasBody fun read => first read >>= fun v => next v read := by
  obtain ⟨body, hbody⟩ := hfirst
  choose after hafter using hnext
  refine ⟨body.andThen after, fun read => ?_⟩
  show _ = first read >>= fun v => next v read
  rw [Body.run_andThen, hbody]
  exact congrArg (first read >>= ·) (funext fun v => hafter v read)

theorem onClass {m : Model} {v : Value} {use : Reader → Model.Class → Except Failure Value}
    (huse : ∀ c, HasBody fun read => use read c) :
    HasBody fun read => Mixin.onClass m v (use read) := by
  unfold Mixin.onClass
  split
  · split
    · exact huse _
    · exact const _
  · exact const _

theorem readPath (path : List String) (v : Value) : HasBody fun read => readPath read path v := by
  induction path generalizing v with
  | nil => exact const (.ok v)
  | cons name path ih => exact (read v name).bind ih

theorem evaluate_single {m : Model} {f : Function Value} {args : List Value}
    (hsingle : ∀ v, HasBody fun read => evaluate m read f [v])
    (hnone : HasBody fun read => evaluate m read f [])
    (hmore : ∀ v w rest, HasBody fun read => evaluate m read f (v :: w :: rest)) :
    HasBody fun read => evaluate m read f args := by
  rcases args with _ | ⟨v, _ | ⟨w, rest⟩⟩
  · exact hnone
  · exact hsingle v
  · exact hmore v w rest

theorem evaluate (m : Model) (f : Function Value) (args : List Value) :
    HasBody fun read => evaluate m read f args := by
  cases f
  case member path =>
    cases args with
    | nil => exact const _
    | cons v rest => exact readPath path v
  case wrapMember path before after =>
    cases args with
    | nil => exact const _
    | cons v rest => exact (readPath path v).bind fun _ => const _
  case identifierName mark =>
    refine evaluate_single (fun v => (read v "is_read_only").bind fun isReadOnly => ?_)
      (const _) (fun _ _ _ => const _)
    cases isReadOnly.isTrue with
    | true => exact (read v "name").bind fun _ => const _
    | false => exact (read v "is_public").bind fun _ => (read v "name").bind fun _ => const _
  case qualifiedIdentifier delimiter =>
    refine evaluate_single (fun v => (read v _).bind fun path => ?_) (const _) (fun _ _ _ => const _)
    cases path <;> exact const _
  case packageIdentifier delimiter =>
    refine evaluate_single (fun v => (read v _).bind fun path => ?_) (const _) (fun _ _ _ => const _)
    cases path <;> exact const _
  case commentLines width =>
    refine evaluate_single (fun v => (read v _).bind fun comment => ?_) (const _)
      (fun _ _ _ => const _)
    cases comment <;> exact const _
  case modulePath =>
    refine evaluate_single (fun v => onClass fun c => ?_) (const _) (fun _ _ _ => const _)
    cases c.inRootPackage with
    | true => exact read v "module_name"
    | false =>
        exact (read v _).bind fun _ => (read v _).bind fun _ => const _
  case servicePath =>
    exact evaluate_single (fun v => onClass fun c => (read v _).bind fun _ => const _) (const _)
      (fun _ _ _ => const _)
  -- The others read nothing.
  all_goals rcases args with _ | ⟨v, _ | ⟨w, _ | ⟨x, rest⟩⟩⟩ <;> exact const _

theorem evaluate_arranged (m : Model) (f : Function Value) (args : List Value)
    (named : List (String × Value)) :
    HasBody fun read => arranged f args named >>= Mixin.evaluate m read f := by
  cases arranged f args named with
  | ok values => exact evaluate m f values
  | error failure => exact const (.error failure)

theorem call (m : Model) (f : Function Value) (args : List Value) (named : List (String × Value)) :
    HasBody fun read => call m read f args named := by
  induction f generalizing args
  case bound f self ih => exact ih (self :: args)
  all_goals exact evaluate_arranged m _ args named

end HasBody

theorem exists_bodies (m : Model) : ∃ bodies, ∀ r,
    Mixin.read m r = readWithin m r (Body.conduct bodies) (depthBound m r) := by
  choose body hbody using fun (f : Function Value) (e : Entity) => HasBody.call m f [.entity e] []
  have hconduct : Body.conduct body = calling m :=
    funext fun read => funext fun f => funext fun e => hbody f e read
  refine ⟨body, fun r => ?_⟩
  rw [hconduct]
  rfl

/-- A member that a model's entity has by its type is what is read, whatever is registered. A default
is taken, and a member said not to be there, exactly where the type has none and none is registered.
A property comes to what its body comes to; a failure is told with the innermost property in whose body
it came up if it means that something has no such member, and as it is otherwise. -/
theorem readWithin_settled (m : Model) (r : Registry) (bodies : Function Value → Entity → Body)
    (depth : Nat) (e : Entity) (name : String) (hname : Text.hasStart "__" name = false) :
    let result := readWithin m r (Body.conduct bodies) (depth + 1) (.entity e) name
    (∀ v, nativeMember? m e name = some v → result = .ok v) ∧
    ((∀ default, orDefault result default = .ok default) ↔
      nativeMember? m e name = none ∧ registered? m r e name = none) ∧
    (isThere result = .ok false ↔
      nativeMember? m e name = none ∧ registered? m r e name = none) ∧
    ∀ implementation, IsProperty m r e name implementation →
      (∀ v, result = .ok v ↔ (bodies implementation e).run
        (readWithin m r (Body.conduct bodies) depth) = .ok v) ∧
      ∀ shown, result = .error shown ↔ ∃ innermost failure,
        Body.ComesUp m r bodies depth (e, name) (bodies implementation e) innermost failure ∧
          shown = told m innermost failure := by
  intro result
  have hmisses : Misses result ↔ nativeMember? m e name = none ∧ registered? m r e name = none :=
    misses_readEntity_iff hname
  refine ⟨fun v hnative => ?_, forall_orDefault_iff.trans hmisses, isThere_eq_false_iff.trans hmisses,
    fun implementation hproperty => ?_⟩
  · show readEntity m r _ _ e name = .ok v
    rw [readEntity, hnative]
  · refine ⟨fun v => ?_, fun shown => (Body.readWithin_property_eq_error_iff hproperty).trans ?_⟩
    · have hresult : result = _ := Body.readWithin_property hproperty
      rw [hresult]
      cases (bodies implementation e).run (readWithin m r (Body.conduct bodies) depth) with
      | ok v => exact Iff.rfl
      | error raw => exact iff_of_false (fun h => by cases h) (fun h => by cases h)
    · constructor
      · rintro ⟨raw, hrun, rfl⟩
        exact Body.exists_comesUp hrun
      · rintro ⟨innermost, failure, hcomes, rfl⟩
        obtain ⟨raw, hrun, htold⟩ := hcomes.run_eq
        exact ⟨raw, hrun, htold.symm⟩

/-! A property that reads another, which reads what is not there. -/

def orders : Model := { classes := [{ name := "Order" }] }

def chained : Registry :=
  ⟨[⟨.classifier, "total", .upper, true⟩, ⟨.classifier, "summary", .lower, true⟩]⟩

def chainedBodies : Function Value → Entity → Body
  | .upper, e => .reads (.entity e) "price" .yields (fun _ => false) .fails
  | .lower, e => .reads (.entity e) "total" .yields (fun _ => false) .fails
  | _, _ => .yields .null

theorem readWithin_settled_chained :
    Text.hasStart "__" "summary" = false ∧
    isThere (readWithin orders chained (Body.conduct chainedBodies) 3 (.entity (.classifier 0))
      "summary") ≠ .ok false ∧
    readWithin orders chained (Body.conduct chainedBodies) 3 (.entity (.classifier 0)) "summary" =
      .error (.memberFailed "total" "MetaClass" "Order"
        "'MetaClass' object has no attribute 'price'") := by
  have hname : Text.hasStart "__" "summary" = false := by decide +kernel
  have hsummary : IsProperty orders chained (.classifier 0) "summary" .lower :=
    ⟨hname, rfl, ⟨.classifier, "summary", .lower, true⟩, rfl, rfl, rfl⟩
  have htotal : IsProperty orders chained (.classifier 0) "total" .upper :=
    ⟨by decide +kernel, rfl, ⟨.classifier, "total", .upper, true⟩, rfl, rfl, rfl⟩
  obtain ⟨-, -, hthere, hproperty⟩ :=
    readWithin_settled orders chained chainedBodies 2 (.classifier 0) "summary" hname
  refine ⟨hname, fun h => ?_, ((hproperty .lower hsummary).2 _).mpr ?_⟩
  · cases (hthere.mp h).2
  · refine ⟨(.classifier 0, "total"), .noMember "MetaClass" "price", .nested htotal
      (.missed ?_ rfl rfl) rfl, rfl⟩
    rintro e implementation - howner ⟨-, -, member, hmember, -⟩
    cases howner
    cases hmember

end Codegen.Mixin
