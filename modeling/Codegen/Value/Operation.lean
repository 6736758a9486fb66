import Codegen.Failure.Basic
import Codegen.Number.Division
import Codegen.Value.Format

/-!
Arithmetic and comparison of values. What is missing takes part in no operation but equality.
-/

namespace Codegen.Value

open Codegen.Model

def misused {α : Type} (operands : List Value) (what : Misuse) : Except Failure α :=
  match operands.findSome? (fun | missing what => some what | _ => none) with
  | some what => .error (.undefined what)
  | none => .error (.misuse what)

def realOfInt (n : Int) : Except Failure Float :=
  let x := Number.floatOfInt n
  if x.isInf then .error (.misuse .integerTooLarge) else .ok x

/-- An operation on two numbers; it is done on integers when both are. -/
def onAmounts (m : Model) (sign : String) (whole : Int → Int → Except Failure Value)
    (real : Float → Float → Except Failure Value) (a b : Value) : Except Failure Value :=
  match a.amount?, b.amount? with
  | some (.whole x), some (.whole y) => whole x y
  | some (.whole x), some (.real y) => do real (← realOfInt x) y
  | some (.real x), some (.whole y) => do real x (← realOfInt y)
  | some (.real x), some (.real y) => real x y
  | _, _ => misused [a, b] (.operands sign (a.typeLabel m) (b.typeLabel m))

def isSequence : Value → Bool
  | text _ | bytes _ | list _ | tuple _ => true
  | _ => false

def add (m : Model) : Value → Value → Except Failure Value
  | text a, text b => .ok (text (a ++ b))
  | bytes a, bytes b => .ok (bytes (a ++ b))
  | list a, list b => .ok (list (a ++ b))
  | tuple a, tuple b => .ok (tuple (a ++ b))
  | a, b =>
    if a.isSequence then misused [b] (.concatenation (a.typeLabel m) (b.typeLabel m))
    else onAmounts m "+" (fun x y => .ok (int (x + y))) (fun x y => .ok (float (x + y))) a b

def subtract (m : Model) : Value → Value → Except Failure Value
  | set a, set b => .ok (set (a.filter fun v => !b.any v.agrees))
  | a, b => onAmounts m "-" (fun x y => .ok (int (x - y))) (fun x y => .ok (float (x - y))) a b

def lengthLimit : Nat := 0x8000000

def repeated (count : Nat) : Value → Except Failure Value
  | text s => do
    fits s.length .textTooLong
    return text (Text.repeated count s)
  | bytes bs => do
    fits bs.length .bytesTooLong
    return bytes (List.replicate count bs).flatten
  | list items => do
    fits items.length .noMemory
    return list (List.replicate count items).flatten
  | tuple items => do
    fits items.length .noMemory
    return tuple (List.replicate count items).flatten
  | v => .ok v
where
  fits (length : Nat) (excess : Misuse) : Except Failure Unit :=
    if Misuse.countLimit ≤ count * length then .error (.misuse excess)
    else if lengthLimit ≤ count * length then .error (.misuse .noMemory)
    else .ok ()

def repetition (m : Model) (sequence count : Value) : Except Failure Value :=
  match count.amount? with
  | some (.whole n) =>
    if -Misuse.countLimit ≤ n ∧ n < Misuse.countLimit then repeated n.toNat sequence
    else .error (.misuse .countTooLarge)
  | _ => misused [count] (.repetition (count.typeLabel m))

def multiply (m : Model) (a b : Value) : Except Failure Value :=
  if a.isSequence then repetition m a b
  else if b.isSequence then repetition m b a
  else onAmounts m "*" (fun x y => .ok (int (x * y))) (fun x y => .ok (float (x * y))) a b

def quotient (x y : Int) : Except Failure Value :=
  let magnitude := Number.floatOfQuotient x.natAbs y.natAbs
  if x = 0 then .ok (float (if y < 0 then -0.0 else 0.0))
  else if magnitude.isInf then .error (.misuse .quotientTooLarge)
  else .ok (float (if (x < 0) == (y < 0) then magnitude else -magnitude))

def divisible (division : Division) (isWhole isZero : Bool) : Except Failure Unit :=
  if isZero then .error (.misuse (.zeroDivisor division isWhole)) else .ok ()

/-- The quotient; of paths, the one seen from the other. -/
def divide (m : Model) : Value → Value → Except Failure Value
  | path p, path q => .ok (path (p ++ q))
  | path p, text s => .ok (path (p.child s))
  | text s, path p => .ok (path (.ofString s ++ p))
  | a, b =>
    onAmounts m "/"
      (fun x y => do
        divisible .quotient true (y == 0)
        quotient x y)
      (fun x y => do
        divisible .quotient false (y == 0.0)
        return float (x / y))
      a b

def floorDivide (m : Model) : Value → Value → Except Failure Value :=
  onAmounts m "//"
    (fun x y => do
      divisible .floor true (y == 0)
      return int (x.fdiv y))
    (fun x y => do
      divisible .floor false (y == 0.0)
      return float (Number.floorDivide x y).1)

/-- What division rounded down leaves over; behind a text, the values that fill it in. -/
def remainder (m : Model) : Value → Value → Except Failure Value
  | text pattern, b => text <$> filled m pattern b
  | a, b =>
    onAmounts m "%"
      (fun x y => do
        divisible .remainder true (y == 0)
        return int (x.fmod y))
      (fun x y => do
        divisible .remainder false (y == 0.0)
        return float (Number.floorDivide x y).2)
      a b

def power (m : Model) : Value → Value → Except Failure Value :=
  let real (x y : Float) : Except Failure Value :=
    let result := x.pow y
    if x == 0.0 && y < 0.0 then .error (.misuse .zeroBase)
    else if result.isInf && !x.isInf && !y.isInf then .error (.misuse .powerTooLarge)
    else .ok (float result)
  onAmounts m "** or pow()"
    (fun x y => do
      if y < 0 then real (← realOfInt x) (← realOfInt y) else return int (Int.pow x y.toNat))
    real

def negate (m : Model) (a : Value) : Except Failure Value :=
  match a.amount? with
  | some (.whole n) => .ok (int (-n))
  | some (.real x) => .ok (float (-x))
  | none => misused [a] (.operand "-" (a.typeLabel m))

def affirm (m : Model) (a : Value) : Except Failure Value :=
  match a.amount? with
  | some (.whole n) => .ok (int n)
  | some (.real x) => .ok (float x)
  | none => misused [a] (.operand "+" (a.typeLabel m))

inductive Order
  | less
  | atMost
  | greater
  | atLeast
  deriving Repr, DecidableEq, Inhabited

namespace Order

def sign : Order → String
  | less => "<"
  | atMost => "<="
  | greater => ">"
  | atLeast => ">="

def admits : Order → Ordering → Bool
  | less, o => o.isLT
  | atMost, o => o.isLE
  | greater, o => o.isGT
  | atLeast, o => o.isGE

end Order

/-- How moments compare. One that knows its offset cannot be compared with one that does not. -/
def compareMoments (a b : Moment) : Except Failure Ordering :=
  if a.offset.isSome == b.offset.isSome then .ok (compare a.instant b.instant)
  else .error (.misuse .zoneOrder)

def compareDates (a b : Date) : Ordering := compare (Moment.dayNumber a) (Moment.dayNumber b)

def isSubset (a b : List Value) : Bool := a.all fun v => b.any v.agrees

mutual

/-- Whether two values stand in an order: numbers by size, texts by code points, lists by the first
items that differ, sets by what they hold. -/
def ordered (m : Model) (order : Order) : Value → Value → Except Failure Bool
  | text a, text b => .ok (order.admits (compare a b))
  | bytes a, bytes b => .ok (order.admits (compare (a.map (·.toNat)) (b.map (·.toNat))))
  | list a, list b => orderedItems m order a b
  | tuple a, tuple b => orderedItems m order a b
  | set a, set b =>
    .ok (match order with
      | .less => a.length < b.length && isSubset a b
      | .atMost => isSubset a b
      | .greater => b.length < a.length && isSubset b a
      | .atLeast => isSubset b a)
  | date a, date b => .ok (order.admits (compareDates a b))
  | moment a, moment b => do return order.admits (← compareMoments a b)
  | path a, path b => .ok (order.admits (compare a.names b.names))
  | a, b =>
    match a, b with
    | date _, moment _ | moment _, date _ =>
      .error (.misuse (.dateOrder "datetime.datetime" "datetime.date"))
    | _, _ =>
      match a.amount?, b.amount? with
      | some x, some y => .ok ((x.compare? y).any order.admits)
      | _, _ => misused [a, b] (.order order.sign (a.typeLabel m) (b.typeLabel m))

def orderedItems (m : Model) (order : Order) : List Value → List Value → Except Failure Bool
  | [], [] => .ok (order.admits .eq)
  | [], _ :: _ => .ok (order.admits .lt)
  | _ :: _, [] => .ok (order.admits .gt)
  | a :: as, b :: bs => if a.agrees b then orderedItems m order as bs else ordered m order a b

end

def less (m : Model) : Value → Value → Except Failure Bool := ordered m .less

def items (m : Model) : Value → Except Failure (List Value)
  | list items | tuple items | set items => .ok items
  | map entries => .ok (entries.map (·.1))
  | text s => .ok (s.toList.map fun c => text (String.singleton c))
  | bytes bs => .ok (bs.map fun b => int b.toNat)
  | record .options fields => .ok (fields.map fun (name, v) => tuple [text name, v])
  | missing _ => .ok []
  | v => .error (.misuse (.items (v.typeLabel m)))

def isWithin (m : Model) (item : Value) : Value → Except Failure Bool
  | text s =>
    match item with
    | text part => .ok (Text.contains part s)
    | _ => .error (.misuse (.partOfText (item.typeLabel m)))
  | bytes bs =>
    match item, item.amount? with
    | bytes part, _ => .ok ((List.range (bs.length + 1)).any fun i => part.isPrefixOf (bs.drop i))
    | _, some (.whole n) =>
      if 0 ≤ n ∧ n < 256 then .ok (bs.any (·.toNat == n.toNat)) else .error (.misuse .byteRange)
    | _, _ => .error (.misuse (.partOfBytes (item.typeLabel m)))
  | map entries => do
    mayBeKey
    return entries.any fun (key, _) => key.agrees item
  | set items => do
    mayBeKey
    return items.any item.agrees
  | container =>
    match container.items m with
    | .ok items => .ok (items.any item.agrees)
    | .error _ => .error (.misuse (.container (container.typeLabel m)))
where
  mayBeKey : Except Failure Unit :=
    match item, item.keyObstacle? with
    | set _, _ | _, none => .ok ()
    | _, some obstacle => .error (.misuse (.key (obstacle.typeLabel m)))

def length (m : Model) : Value → Except Failure Value
  | record .loop fields => .ok ((fields.lookup "length").getD .null)
  | v =>
    match v, v.items m with
    | record .options _, _ | _, .error _ => .error (.misuse (.length (v.typeLabel m)))
    | _, .ok items => .ok (.int items.length)

def nth? {α : Type} (items : List α) (n : Int) : Option α :=
  if n < 0 then
    if n.natAbs ≤ items.length then items[items.length - n.natAbs]? else none
  else items[n.toNat]?

/-- What a value holds under an index: an item by its position, an entry by its key. -/
def at? (v index : Value) : Option Value :=
  match v with
  | map entries => lookup? index entries
  | list items | tuple items =>
    match index.amount? with
    | some (.whole n) => nth? items n
    | _ => none
  | text s =>
    match index.amount? with
    | some (.whole n) => (nth? s.toList n).map fun c => text (String.singleton c)
    | _ => none
  | bytes bs =>
    match index.amount? with
    | some (.whole n) => (nth? bs n).map fun b => int b.toNat
    | _ => none
  | _ => none

/-- Sorts by a key, keeping the order of equal keys. Keys that have no order fail. -/
def sortBy (m : Model) (key : Value → Value) (items : List Value) : Except Failure (List Value) := do
  let keyed := items.map fun v => (key v, v)
  for ((a, _), (b, _)) in keyed.zip (keyed.drop 1) do
    let _ ← less m b a
  return (keyed.mergeSort fun (a, _) (b, _) =>
    match less m b a with
    | .ok isLess => !isLess
    | .error _ => true).map (·.2)

end Codegen.Value
