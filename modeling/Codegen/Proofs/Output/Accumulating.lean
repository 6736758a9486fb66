import Codegen.Proofs.Output.Delivery

/-! Bodies that go out as properties: each joins a list of the context, and nothing else that is
delivered changes the context. -/

namespace Codegen

def Value.isList : Value → Bool
  | .list _ => true
  | _ => false

namespace Generation.Context

variable {context : Context} {name : String} {item v : Value} {items : List Value}

theorem push_of_absent (h : context.lookup name = none) :
    context.push name item = .ok (Table.put name (.list [item]) context) := by
  rw [push, h]

theorem push_of_list (h : context.lookup name = some (.list items)) :
    context.push name item = .ok (Table.put name (.list (items ++ [item])) context) := by
  rw [push, h]

theorem push_of_occupied (h : context.lookup name = some v) (hv : v.isList = false) :
    context.push name item = .error v := by
  rw [push, h]
  cases v with
  | list items => cases hv
  | _ => rfl

/-- What a context holds under a name that bodies were accumulated under: nothing at all while there
are none. -/
def listed : List String → Option Value
  | [] => none
  | body :: bodies => some (.ofTexts (body :: bodies))

theorem accumulate_of_listed (m : Model) {bodies : List String} (body : String)
    (h : context.lookup name = listed bodies) :
    ∃ after : Context, context.accumulate m name body = .ok after ∧
      after.lookup name = listed (bodies ++ [body]) := by
  cases bodies with
  | nil =>
      refine ⟨_, by rw [accumulate, push_of_absent h], ?_⟩
      exact Table.lookup_put name _ context
  | cons first rest =>
      refine ⟨_, by rw [accumulate, push_of_list h], ?_⟩
      rw [Table.lookup_put, List.cons_append, listed, Value.ofTexts, ← List.cons_append,
        List.map_append]
      rfl

theorem accumulate_of_occupied (m : Model) (body : String) (h : context.lookup name = some v)
    (hv : v.isList = false) :
    context.accumulate m name body = .error (.generation (.occupiedProperty name (v.typeName m))) := by
  rw [accumulate, push_of_occupied h hv]

theorem lookup_of_accumulate {m : Model} {body other : String} {after : Context}
    (h : context.accumulate m name body = .ok after) (hother : other ≠ name) :
    after.lookup other = context.lookup other := by
  rw [accumulate, push] at h
  cases hlookup : context.lookup name with
  | none =>
      rw [hlookup] at h
      cases h
      exact Table.lookup_put_of_ne hother _ _
  | some v =>
      rw [hlookup] at h
      cases v with
      | list items =>
          cases h
          exact Table.lookup_put_of_ne hother _ _
      | _ => cases h

theorem occupied_of_accumulate {m : Model} {body other : String} {after : Context}
    (h : context.accumulate m name body = .ok after) (hother : context.lookup other = some v)
    (hv : v.isList = false) : after.lookup other = some v := by
  by_cases hname : other = name
  · subst hname
    rw [accumulate_of_occupied m body hother hv] at h
    cases h
  · exact (lookup_of_accumulate h hname).trans hother

end Generation.Context

namespace Output

def Parcel.propertyName (parcel : Parcel) : String := Output.propertyName parcel.address.toString

/-- The bodies that go out as a property of a name, in their order. -/
def bodiesFor (name : String) (parcels : List Parcel) : List String :=
  (parcels.filter fun parcel => parcel.mode = .property ∧ parcel.propertyName = name).map (·.body)

theorem bodiesFor_append_self {parcel : Parcel} (parcels : List Parcel)
    (hmode : parcel.mode = .property) :
    bodiesFor parcel.propertyName (parcels ++ [parcel]) =
      bodiesFor parcel.propertyName parcels ++ [parcel.body] := by
  simp [bodiesFor, hmode]

theorem bodiesFor_append_of_ne {parcel : Parcel} {name : String} (parcels : List Parcel)
    (h : parcel.mode = .property → parcel.propertyName ≠ name) :
    bodiesFor name (parcels ++ [parcel]) = bodiesFor name parcels := by
  have hnot : ¬ (parcel.mode = .property ∧ parcel.propertyName = name) := fun hboth =>
    h hboth.1 hboth.2
  simp [bodiesFor, hnot]

/-! The context after a delivery. -/

variable {m : Model} {parcel : Parcel} {desk : Desk}

theorem run_deliver_property (hmode : parcel.mode = .property) :
    (parcel.deliver m).run desk =
      match desk.context.accumulate m parcel.propertyName parcel.body with
      | .error failure => (.error failure, desk)
      | .ok context =>
        ((Log.outputLogger.say desk.levels .debug
            s!"Accumulated output into context property '{parcel.propertyName}'").map fun _ => none,
          { desk with context }) := by
  obtain ⟨mode, path, body⟩ := parcel
  obtain rfl : mode = .property := hmode
  rw [Parcel.deliver, route, Stateful.run_bind_ok (Stateful.run_get desk), Stateful.run_bind,
    Routing.run_lift]
  cases haccumulate : desk.context.accumulate m (Output.propertyName (Files.Path.ofString path).toString)
      body with
  | error failure =>
      simp only [Parcel.propertyName, Parcel.address, haccumulate]
  | ok context =>
      simp only [Parcel.propertyName, Parcel.address, haccumulate]
      rw [Stateful.run_bind_ok (Stateful.run_set _ _), Stateful.run_bind, Routing.run_say]
      cases Log.outputLogger.say desk.levels .debug
        s!"Accumulated output into context property '{Output.propertyName (Files.Path.ofString path).toString}'"
        <;> rfl

/-! Nothing else that is delivered looks at the context or changes it. -/

def Routing.OverlooksContext {α : Type} (routing : Routing α) : Prop :=
  ∀ (desk : Desk) (context : Generation.Context), routing.run { desk with context } =
    ((routing.run desk).1, { (routing.run desk).2 with context })

namespace Routing.OverlooksContext

variable {α β : Type} {routing : Routing α}

theorem pure (x : α) : (Pure.pure x : Routing α).OverlooksContext :=
  fun _ _ => rfl

theorem lift (outcome : Except Failure α) : (Routing.lift outcome).OverlooksContext :=
  fun desk context => by rw [run_lift, run_lift]

theorem say (method : Log.Method) (message : String) :
    (Routing.say method message).OverlooksContext :=
  fun desk context => by rw [run_say, run_say]

theorem bind {next : α → Routing β} (hrouting : routing.OverlooksContext)
    (hnext : ∀ x, (next x).OverlooksContext) : (routing >>= next).OverlooksContext := by
  intro desk context
  rw [Stateful.run_bind, Stateful.run_bind, hrouting]
  rcases routing.run desk with ⟨outcome, after⟩
  cases outcome with
  | error failure => rfl
  | ok x => exact hnext x after context

theorem get_bind {next : Desk → Routing β}
    (hsame : ∀ desk context, next { desk with context } = next desk)
    (hnext : ∀ desk, (next desk).OverlooksContext) : (get >>= next).OverlooksContext := by
  intro desk context
  rw [Stateful.run_bind_ok (Stateful.run_get _), Stateful.run_bind_ok (Stateful.run_get _), hsame]
  exact hnext desk desk context

theorem kept (h : routing.OverlooksContext) (desk : Desk) :
    (routing.run desk).2.context = desk.context :=
  congrArg (fun result => result.2.context) (h desk desk.context)

end Routing.OverlooksContext

theorem ensureParents_overlooksContext (path : Files.Path) : (ensureParents path).OverlooksContext :=
  fun desk context => by rw [run_ensureParents, run_ensureParents]

theorem overwrite_overlooksContext (path : Files.Path) (body : String) :
    (overwrite path body).OverlooksContext := by
  intro desk context
  simp only [overwrite, Stateful.run_bind, run_ensureParents, Stateful.run_get, Routing.run_lift,
    Stateful.run_set, Routing.run_say]
  cases (desk.workspace.ensureParents path).2 with
  | error failure => rfl
  | ok u =>
      dsimp only
      cases (desk.workspace.ensureParents path).1.writeText path body <;> rfl

theorem aggregate_overlooksContext (path : Files.Path) (body : String) :
    (aggregate path body).OverlooksContext := by
  intro desk context
  simp only [aggregate, Stateful.run_bind, Stateful.run_get, Routing.run_lift]
  cases desk.aggregates.isOpen desk.workspace path with
  | error failure => rfl
  | ok isOpen =>
      cases isOpen with
      | true =>
          simp only [if_true]
          cases desk.aggregates.write desk.workspace path body <;> rfl
      | false =>
          simp only [Bool.false_eq_true, if_false, Stateful.run_bind, Routing.run_lift, Routing.run_say]
          cases desk.workspace.resolvePath path with
          | error failure => rfl
          | ok opened =>
              dsimp only
              cases Log.outputLogger.say _ _ _ with
              | error failure => rfl
              | ok u =>
                  dsimp only
                  cases desk.aggregates.write desk.workspace path body <;> rfl

theorem deliver_overlooksContext (hmode : parcel.mode ≠ .property) :
    (parcel.deliver m).OverlooksContext := by
  obtain ⟨mode, path, body⟩ := parcel
  cases mode with
  | property => exact absurd rfl hmode
  | ignore => exact .bind (.say _ _) fun _ => .pure _
  | overwrite => exact .bind (overwrite_overlooksContext _ body) fun _ => .pure _
  | preserve =>
      refine .get_bind (fun _ _ => rfl) fun desk => .bind (.lift _) fun there => ?_
      split
      · exact .bind (.say _ _) fun _ => .pure _
      · exact .bind (overwrite_overlooksContext _ body) fun _ => .pure _
  | aggregate =>
      refine .bind (ensureParents_overlooksContext _) fun _ =>
        .bind (aggregate_overlooksContext _ body) fun _ => ?_
      exact .bind (.say _ _) fun _ => .pure _

theorem deliver_elsewhere {name : String} (h : parcel.mode = .property → parcel.propertyName ≠ name) :
    ((parcel.deliver m).run desk).2.context.lookup name = desk.context.lookup name := by
  by_cases hmode : parcel.mode = .property
  · rw [run_deliver_property hmode]
    cases haccumulate : desk.context.accumulate m parcel.propertyName parcel.body with
    | error failure => rfl
    | ok after => exact Generation.Context.lookup_of_accumulate haccumulate (Ne.symm (h hmode))
  · rw [(deliver_overlooksContext hmode).kept desk]

/-- Whatever comes of a delivery, what the context holds under a name that it listed the bodies for
lists them with the one that was delivered. -/
theorem deliver_listed {name : String} {parcels : List Parcel}
    (h : desk.context.lookup name = Generation.Context.listed (bodiesFor name parcels)) :
    ((parcel.deliver m).run desk).2.context.lookup name =
      Generation.Context.listed (bodiesFor name (parcels ++ [parcel])) := by
  by_cases hown : parcel.mode = .property ∧ parcel.propertyName = name
  · obtain ⟨hmode, rfl⟩ := hown
    obtain ⟨after, haccumulate, hafter⟩ := Generation.Context.accumulate_of_listed m parcel.body h
    rw [run_deliver_property hmode, haccumulate, bodiesFor_append_self parcels hmode]
    exact hafter
  · have hother : parcel.mode = .property → parcel.propertyName ≠ name := fun hmode hname => hown ⟨hmode, hname⟩
    rw [deliver_elsewhere hother, bodiesFor_append_of_ne parcels hother, h]

theorem deliver_occupied {name : String} {v : Value} (h : desk.context.lookup name = some v)
    (hv : v.isList = false) : ((parcel.deliver m).run desk).2.context.lookup name = some v := by
  by_cases hmode : parcel.mode = .property
  · rw [run_deliver_property hmode]
    cases haccumulate : desk.context.accumulate m parcel.propertyName parcel.body with
    | error failure => exact h
    | ok after => exact Generation.Context.occupied_of_accumulate haccumulate h hv
  · rw [(deliver_overlooksContext hmode).kept desk]
    exact h

theorem deliver_refused {v : Value} (hmode : parcel.mode = .property)
    (h : desk.context.lookup parcel.propertyName = some v) (hv : v.isList = false) :
    (parcel.deliver m).run desk =
      (.error (.generation (.occupiedProperty parcel.propertyName (v.typeName m))), desk) := by
  rw [run_deliver_property hmode, Generation.Context.accumulate_of_occupied m parcel.body h hv]

end Output

end Codegen
