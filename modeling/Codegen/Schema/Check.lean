import Codegen.Number.FloatText
import Codegen.Schema.Fault
import Codegen.Text.Halves

/-!
Checks of documents against a schema. A check either accepts a part of a document or lists
everything that is wrong with it, field by field and item by item.
-/

namespace Codegen

abbrev Checked (α : Type) := Except (List SchemaProblem) α

namespace Checked

variable {α β γ : Type}

/-- Applies a checked function to a checked value; the problems of both are kept. -/
def apply : Checked (α → β) → Checked α → Checked β
  | .ok f, .ok x => .ok (f x)
  | .ok _, .error q => .error q
  | .error p, .ok _ => .error p
  | .error p, .error q => .error (p ++ q)

def refuse (fault : SchemaFault) (input : Value) : Checked α := .error [⟨[], fault, input⟩]

def under (step : DocumentStep) : Checked α → Checked α
  | .ok x => .ok x
  | .error problems => .error (problems.map (·.under step))

def items (check : Value → Checked α) : Nat → List Value → Checked (List α)
  | _, [] => .ok []
  | i, v :: vs =>
    apply ((under (.item i) (check v)).map List.cons) (items check (i + 1) vs)

def field (name : String) (check : Value → Checked α) (otherwise : Checked α)
    (fields : List (Value × Value)) : Checked α :=
  under (.field name) <| match Value.field? name fields with
    | some v => check v
    | none => otherwise

def text : Value → Checked String
  | .text s => .ok s
  | .bytes bs =>
    match String.fromUTF8? ⟨bs.toArray⟩ with
    | some s => .ok s
    | none => refuse .notUnicode (.bytes bs)
  | v => refuse .notText v

def optionalText : Value → Checked (Option String)
  | .null => .ok none
  | v => (text v).map some

def list (check : Value → Checked α) : Value → Checked (List α)
  | .list vs | .tuple vs | .set vs => items check 0 vs
  | v => refuse .notList v

def trueWords : List String := ["1", "t", "true", "y", "yes", "on"]

def falseWords : List String := ["0", "f", "false", "n", "no", "off"]

def booleanWord? (s : String) : Option Bool :=
  let word := String.ofList (s.toList.map Char.toLower)
  if word ∈ trueWords then some true else if word ∈ falseWords then some false else none

def wordLimit : Int := 0x8000000000000000

def booleanFault (n : Int) : SchemaFault :=
  if -wordLimit ≤ n ∧ n < wordLimit then .unreadableBoolean else .notBoolean

def boolean (v : Value) : Checked Bool :=
  let ofInteger (n : Int) : Checked Bool :=
    if n = 0 then .ok false else if n = 1 then .ok true else refuse (booleanFault n) v
  let ofWord (s : String) : Checked Bool :=
    match booleanWord? s with
    | some b => .ok b
    | none => refuse .unreadableBoolean v
  match v with
  | .bool b => .ok b
  | .int n => ofInteger n
  | .float x =>
    match Number.integerOfFloat? x with
    | some n => ofInteger n
    | none => refuse .notBoolean v
  | .text s => ofWord s
  | .bytes bs =>
    match String.fromUTF8? ⟨bs.toArray⟩ with
    | some s => ofWord s
    | none => refuse (if Text.isHalved bs then .notUnicode else .unreadableBoolean) v
  | _ => refuse .notBoolean v

def record (name : String) (check : List (Value × Value) → Checked α) : Value → Checked α
  | .map fields => check fields
  | v => refuse (.notRecord name) v

end Checked

end Codegen
