import Codegen.Value.Operation

/-!
Streams while a template is rendered: what is left in each of them. Whoever looks at the items of a
stream uses them up, so that a second look finds only those that the first left over.
-/

namespace Codegen.Template

open Codegen.Model

abbrev Streams := List (List Value)

abbrev Eval (α : Type) := StateT Streams (Except Failure) α

namespace Streams

def create (kind : StreamKind) (items : List Value) : Eval Value := do
  let streams ← get
  set (streams ++ [items])
  return .stream kind streams.length

def left (number : Nat) : Eval (List Value) := do return (← get).getD number []

def leave (number : Nat) (items : List Value) : Eval Unit := modify (·.set number items)

def next? (number : Nat) : Eval (Option Value) := do
  let items ← left number
  leave number (items.drop 1)
  return items.head?

def drain (number : Nat) : Eval (List Value) := do
  let items ← left number
  leave number []
  return items

end Streams

/-- The items that a loop over a value runs through; those of a stream are used up. -/
def itemsOf (m : Model) : Value → Eval (List Value)
  | .stream _ number => Streams.drain number
  | v => v.items m

/-- The first item; it leaves a stream. -/
def firstOf (m : Model) : Value → Eval (Option Value)
  | .stream _ number => Streams.next? number
  | v => do return (← v.items m).head?

/-- Whether a value is an item of a collection. In a stream the items up to it are used up. -/
def isWithin (m : Model) (item : Value) : Value → Eval Bool
  | .stream _ number => do
    let rest := (← Streams.left number).dropWhile fun v => !v.agrees item
    Streams.leave number (rest.drop 1)
    return !rest.isEmpty
  | container => Value.isWithin m item container

/-- The items of a value from last to first: of a text again a text, of a collection with an order a
stream. -/
def reversed (m : Model) : Value → Eval Value
  | .text s => return .text (String.ofList s.toList.reverse)
  | .list items => Streams.create .list items.reverse
  | .map entries => Streams.create .keys (entries.reverse.map (·.1))
  | .tuple items => Streams.create .sequence items.reverse
  | .bytes bs => Streams.create .sequence (bs.reverse.map fun b => .int b.toNat)
  | .missing _ => Streams.create .sequence []
  | .stream _ number => do return .list (← Streams.drain number).reverse
  | v =>
    match v.items m with
    | .ok items => return .list items.reverse
    | .error _ => throw .notReversible

def lastOf (m : Model) : Value → Eval (Option Value)
  | v =>
    match v with
    | .set _ | .record .. | .stream .. => throw (.misuse (.reversal (v.typeLabel m)))
    | _ =>
      match v.items m with
      | .ok items => return items.getLast?
      | .error _ => throw (.misuse (.reversal (v.typeLabel m)))

end Codegen.Template
