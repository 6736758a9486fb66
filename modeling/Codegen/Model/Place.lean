import Codegen.Failure.Basic

/-!
Entities found by where they stand in a model: by the number of their class and their own number in
it. Negative numbers count from the end.
-/

namespace Codegen.Model

def index? (length : Nat) (n : Int) : Option Nat :=
  if n < 0 then (if n.natAbs ≤ length then some (length - n.natAbs) else none)
  else if n < length then some n.toNat
  else none

namespace Entity

def at? (m : Model) (kind : String) (numbers : List Int) : Option Value := do
  let i ← index? m.classes.length (← numbers.head?)
  let c ← m.classes[i]?
  match kind, numbers.drop 1 with
  | "class", _ => return .entity (.classifier i)
  | "stereotype", n :: _ =>
    return .entity (.stereotype i (← index? c.stereotypes.length n))
  | "attribute", n :: _ => return .entity (.attr i (← index? c.attributes.length n))
  | "type", n :: _ =>
    let j ← index? c.attributes.length n
    return if (c.attributes[j]?.bind (·.type)).isSome then .entity (.datatype i j) else .null
  | _, _ => none

/-- The entity at a place of a model that may be absent. -/
def locate (m : Option Model) (kind : String) (numbers : List Int) : Except Failure Value :=
  match m with
  | none => if kind = "model" then .ok .null else .error (.entityAbsent false)
  | some m =>
    if kind = "model" then .ok (.entity .model)
    else
      match at? m kind numbers with
      | some v => .ok v
      | none => .error (.entityAbsent true)

end Entity

end Codegen.Model
