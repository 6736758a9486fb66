import Codegen.Output.Routing
import Codegen.Proofs.Files.Writing
import Codegen.Proofs.Log.Saying
import Codegen.Proofs.Stateful

/-! How the delivery of a parcel ends: in which cases it touches the files, and what it does to them. -/

namespace Codegen.Output

open Codegen.Files

namespace Routing

@[simp] theorem run_lift {α : Type} (outcome : Except Failure α) (desk : Desk) :
    (lift outcome).run desk = (outcome, desk) := by
  cases outcome <;> rfl

@[simp] theorem run_say (method : Log.Method) (message : String) (desk : Desk) :
    (say method message).run desk = (Log.outputLogger.say desk.levels method message, desk) := by
  simp [say, Stateful.run_bind]

end Routing

@[simp] theorem run_ensureParents (path : Path) (desk : Desk) :
    (ensureParents path).run desk =
      ((desk.workspace.ensureParents path).2,
        { desk with workspace := (desk.workspace.ensureParents path).1 }) := by
  simp only [ensureParents, Stateful.run_bind, Stateful.run_get, Stateful.run_set, Routing.run_lift]

@[simp] theorem run_closeAll (desk : Desk) :
    closeAll.run desk =
      (.ok desk.aggregates.length,
        { desk with workspace := desk.aggregates.closeAll desk.workspace, aggregates := [] }) := rfl

theorem closeEach_whole (files : Aggregates) (closed : Nat) (desk : Desk)
    (hfiles : desk.aggregates = files.reverse) :
    (closeEach .whole closed files).run desk =
      (.ok (closed + files.length),
        { desk with
          workspace := files.foldl (fun w file => file.close w) desk.workspace, aggregates := [] }) := by
  induction files generalizing closed desk with
  | nil =>
      obtain ⟨w, aggregates, context, levels⟩ := desk
      obtain rfl : aggregates = [] := hfiles
      rfl
  | cons file rest ih =>
      rw [closeEach, Stateful.run_bind_ok (Stateful.run_get desk)]
      simp only [Closing.whole, Stateful.run_bind, Stateful.run_set, Routing.run_lift]
      rw [ih _ _ rfl, List.foldl_cons, List.length_cons, Nat.add_right_comm, Nat.add_assoc]

theorem closeAllBy_whole : closeAllBy .whole = closeAll := by
  funext desk
  show (closeAllBy .whole).run desk = closeAll.run desk
  rw [closeAllBy, Stateful.run_bind_ok (Stateful.run_get desk),
    closeEach_whole _ _ _ (List.reverse_reverse _).symm, run_closeAll, Aggregates.closeAll,
    List.foldl_reverse, List.length_reverse, Nat.zero_add]

def Parcel.address (parcel : Parcel) : Path := .ofString parcel.path

/-- Whether a body of this mode goes to a file. -/
def Mode.isFiled : Mode → Bool
  | .overwrite | .preserve | .aggregate => true
  | .property | .ignore => false

/-- How the delivery of a parcel ends: its outcome, and the desk that it leaves. -/
inductive Delivered (parcel : Parcel) (desk : Desk) : Except Failure (Option Path) × Desk → Prop
  | unfiled (outcome : Except Failure (Option Path)) (context : Generation.Context)
      (hmode : outcome.isOk = true → parcel.mode ≠ .aggregate)
      (hcontext : ∀ failure, outcome = .error failure →
        context = desk.context ∨ ∃ fault, failure = .markup fault) :
      Delivered parcel desk (outcome, { desk with context })
  | blocked (failure : Failure) (hmode : parcel.mode.isFiled = true) :
      Delivered parcel desk
        (.error failure,
          { desk with workspace := (desk.workspace.ensureParents parcel.address).1 })
  | written (outcome : Except Failure (Option Path)) (place : Place)
      (hmode : parcel.mode = .overwrite ∨ parcel.mode = .preserve)
      (hplace : (desk.workspace.ensureParents parcel.address).1.resolve parcel.address = .ok place)
      (hroot : place ≠ []) :
      Delivered parcel desk
        (outcome,
          { desk with
            workspace := (desk.workspace.ensureParents parcel.address).1.putFile place
              parcel.body.toUTF8 })
  | appended (outcome : Except Failure (Option Path)) (hmode : parcel.mode = .aggregate)
      (workspace : Workspace) (aggregates : Aggregates) (target : Path)
      (hwrite : desk.aggregates.write (desk.workspace.ensureParents parcel.address).1 parcel.address
        parcel.body = .ok (workspace, aggregates, target)) :
      Delivered parcel desk (outcome, { desk with workspace, aggregates })

theorem overwrite_cases (path : Path) (body : String) (desk : Desk) :
    (∃ failure, (overwrite path body).run desk =
      (.error failure, { desk with workspace := (desk.workspace.ensureParents path).1 })) ∨
    ∃ outcome place, (desk.workspace.ensureParents path).1.resolve path = .ok place ∧ place ≠ [] ∧
      (overwrite path body).run desk =
        (outcome,
          { desk with
            workspace := (desk.workspace.ensureParents path).1.putFile place body.toUTF8 }) := by
  simp only [overwrite, Stateful.run_bind, run_ensureParents, Stateful.run_get, Routing.run_lift,
    Stateful.run_set, Routing.run_say]
  cases hparents : (desk.workspace.ensureParents path).2 with
  | error failure => exact .inl ⟨failure, rfl⟩
  | ok u =>
      cases hwrite : (desk.workspace.ensureParents path).1.writeText path body with
      | error failure => exact .inl ⟨failure, by simp only [hwrite]⟩
      | ok after =>
          obtain ⟨place, hplace, hroot, rfl⟩ := Workspace.writeText_ok hwrite
          exact .inr ⟨_, place, hplace, hroot, by simp only [hwrite]; rfl⟩

theorem aggregate_cases (path : Path) (body : String) (desk : Desk) :
    (∃ failure, (aggregate path body).run desk = (.error failure, desk)) ∨
    ∃ workspace aggregates target,
      desk.aggregates.write desk.workspace path body = .ok (workspace, aggregates, target) ∧
      (aggregate path body).run desk = (.ok target, { desk with workspace, aggregates }) := by
  simp only [aggregate, Stateful.run_bind, Stateful.run_get, Routing.run_lift]
  cases desk.aggregates.isOpen desk.workspace path with
  | error failure => exact .inl ⟨failure, rfl⟩
  | ok isOpen =>
      cases hwrite : desk.aggregates.write desk.workspace path body with
      | error failure =>
          left
          cases isOpen with
          | true => exact ⟨failure, rfl⟩
          | false =>
              simp only [Bool.false_eq_true, if_false, Stateful.run_bind, Routing.run_lift,
                Routing.run_say]
              cases desk.workspace.resolvePath path with
              | error failure => exact ⟨failure, rfl⟩
              | ok opened =>
                  dsimp only
                  cases Log.outputLogger.say _ _ _ with
                  | error failure => exact ⟨failure, rfl⟩
                  | ok u => exact ⟨failure, rfl⟩
      | ok result =>
          obtain ⟨workspace, aggregates, target⟩ := result
          cases isOpen with
          | true => exact .inr ⟨workspace, aggregates, target, rfl, rfl⟩
          | false =>
              simp only [Bool.false_eq_true, if_false, Stateful.run_bind, Routing.run_lift,
                Routing.run_say]
              cases desk.workspace.resolvePath path with
              | error failure => exact .inl ⟨failure, rfl⟩
              | ok opened =>
                  dsimp only
                  cases Log.outputLogger.say _ _ _ with
                  | error failure => exact .inl ⟨failure, rfl⟩
                  | ok u => exact .inr ⟨workspace, aggregates, target, rfl, rfl⟩

private theorem run_say_then {α : Type} (method : Log.Method) (message : String) (x : α)
    (desk : Desk) :
    ∃ outcome, (do Routing.say method message; return x : Routing α).run desk = (outcome, desk) ∧
      ∀ failure, outcome = .error failure → ∃ fault, failure = .markup fault := by
  simp only [Stateful.run_bind, Routing.run_say]
  cases hsay : Log.outputLogger.say desk.levels method message with
  | error failure =>
      refine ⟨.error failure, rfl, ?_⟩
      rintro _ ⟨⟩
      exact Log.say_error hsay
  | ok u =>
      refine ⟨.ok x, rfl, ?_⟩
      rintro _ ⟨⟩

private theorem delivered_overwrite {parcel : Parcel}
    (hmode : parcel.mode = .overwrite ∨ parcel.mode = .preserve) (desk : Desk) :
    Delivered parcel desk ((do
      overwrite parcel.address parcel.body
      return some parcel.address : Routing (Option Path)).run desk) := by
  rw [Stateful.run_bind]
  rcases overwrite_cases parcel.address parcel.body desk with
    ⟨failure, hrun⟩ | ⟨outcome, place, hplace, hroot, hrun⟩
  · rw [hrun]
    refine .blocked failure ?_
    rcases hmode with h | h <;> rw [h] <;> rfl
  · rw [hrun]
    cases outcome with
    | error failure => exact .written (.error failure) place hmode hplace hroot
    | ok u => exact .written (.ok _) place hmode hplace hroot

theorem delivered (m : Model) (parcel : Parcel) (desk : Desk) :
    Delivered parcel desk ((parcel.deliver m).run desk) := by
  obtain ⟨mode, path, body⟩ := parcel
  cases mode with
  | overwrite => exact delivered_overwrite (.inl rfl) desk
  | preserve =>
      simp only [Parcel.deliver, route, Stateful.run_bind, Stateful.run_get, Routing.run_lift]
      cases desk.workspace.exists? (.ofString path) with
      | error failure => exact .unfiled (.error failure) desk.context (by simp) (by simp)
      | ok there =>
          cases there with
          | true =>
              obtain ⟨outcome, hrun, hfailed⟩ := run_say_then .debug
                s!"Preserving existing file {Path.ofString path}" (none : Option Path) desk
              have hunfiled : Delivered ⟨.preserve, path, body⟩ desk (outcome, desk) :=
                .unfiled outcome desk.context (by simp) fun _ h => .inr (hfailed _ h)
              rw [← hrun] at hunfiled
              exact hunfiled
          | false => exact delivered_overwrite (.inr rfl) desk
  | aggregate =>
      simp only [Parcel.deliver, route, Stateful.run_bind, run_ensureParents, Routing.run_say]
      cases (desk.workspace.ensureParents (.ofString path)).2 with
      | error failure => exact .blocked failure rfl
      | ok u =>
          let ready : Desk :=
            { desk with workspace := (desk.workspace.ensureParents (.ofString path)).1 }
          rcases aggregate_cases (.ofString path) body ready with
            ⟨failure, hrun⟩ | ⟨workspace, aggregates, target, hwrite, hrun⟩
          · simp only [ready] at hrun
            simp only [hrun]
            exact .blocked failure rfl
          · simp only [ready] at hrun
            simp only [hrun]
            cases Log.outputLogger.say _ _ _ with
            | error failure => exact .appended _ rfl workspace aggregates target hwrite
            | ok u => exact .appended _ rfl workspace aggregates target hwrite
  | property =>
      simp only [Parcel.deliver, route, Stateful.run_bind, Stateful.run_get, Routing.run_lift]
      cases desk.context.accumulate m (propertyName (Path.ofString path).toString) body with
      | error failure => exact .unfiled (.error failure) desk.context (by simp) (by simp)
      | ok context =>
          simp only [Stateful.run_set]
          obtain ⟨outcome, hrun, hfailed⟩ := run_say_then .debug
            s!"Accumulated output into context property '{propertyName (Path.ofString path).toString}'"
            (none : Option Path) { desk with context }
          simp only [Stateful.run_bind] at hrun
          rw [hrun]
          exact .unfiled outcome context (by simp) fun _ h => .inr (hfailed _ h)
  | ignore =>
      obtain ⟨outcome, hrun, hfailed⟩ := run_say_then .debug
        s!"Ignored output for {Path.ofString path}" (none : Option Path) desk
      have hunfiled : Delivered ⟨.ignore, path, body⟩ desk (outcome, desk) :=
        .unfiled outcome desk.context (by simp) fun _ h => .inr (hfailed _ h)
      rw [← hrun] at hunfiled
      exact hunfiled

end Codegen.Output
