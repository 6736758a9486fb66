import Codegen.Files.Path
import Codegen.Model.Entity
import Codegen.Number.Rounding
import Codegen.Text.Quoted
import Codegen.Value.Calendar

/-!
The values that documents, templates and plugins exchange, and the functions among them.
-/

namespace Codegen

open Codegen.Model

/-- A fault that a plugin raises: the name of its kind and a message. A kind that the plugin itself adds
stands below those in `above`. -/
structure Fault where
  kind : String
  message : String
  above : List String := []
  deriving Repr, DecidableEq, Inhabited

inductive NamingStyle
  | snake
  | camel
  | upperFirst
  deriving Repr, DecidableEq, Inhabited

/-- The functions that values can be; `V` is the type of the values they hold. -/
inductive Function (V : Type) where
  | constant (value : V)
  | upper
  | lower
  | repeated (count : Nat)
  | wrap (before after : String)
  | member (path : List String)
  | wrapMember (path : List String) (before after : String)
  | joinArguments (separator : String)
  | raise (fault : Fault)
  | naming (style : NamingStyle)
  | typeHint
  | identifierName (mark : String)
  | qualifiedIdentifier (delimiter : String)
  | packageIdentifier (delimiter : String)
  | commentLines (width : Int)
  | moduleName
  | modulePath
  | servicePath
  | hasStereotype
  | findClass
  | bound (function : Function V) (self : V)

inductive Missing
  | unbound (name : String)
  | part (owner name : String)
  | item (owner index : String)
  | remark (text : String)
  deriving Repr, DecidableEq, Inhabited

inductive RecordKind
  | options
  | loop
  deriving Repr, DecidableEq, Inhabited

namespace RecordKind

def name : RecordKind → String
  | options => "GenerationOptions"
  | loop => "LoopContext"

end RecordKind

inductive StreamKind
  | list
  | sequence
  | keys
  deriving Repr, DecidableEq, Inhabited

namespace StreamKind

def name : StreamKind → String
  | list => "list_reverseiterator"
  | sequence => "reversed"
  | keys => "dict_reversekeyiterator"

end StreamKind

/-- A value. A stream stands for items that are used up when they are looked at; its number leads to
those that are left. -/
inductive Value where
  | null
  | bool (b : Bool)
  | int (n : Int)
  | float (x : Float)
  | text (s : String)
  | bytes (bs : List UInt8)
  | date (d : Date)
  | moment (t : Moment)
  | list (items : List Value)
  | tuple (items : List Value)
  | set (items : List Value)
  | map (entries : List (Value × Value))
  | path (p : Files.Path)
  | entity (e : Entity)
  | kind (k : EntityKind)
  | function (f : Function Value)
  | record (kind : RecordKind) (fields : List (String × Value))
  | stream (kind : StreamKind) (number : Nat)
  | missing (what : Missing)

instance : Inhabited Value := ⟨.null⟩

namespace Missing

def message : Missing → String
  | unbound name => Text.quoted name ++ " is undefined"
  | part owner name => Text.quoted owner ++ " has no attribute " ++ Text.quoted name
  | item owner index => owner ++ " has no element " ++ index
  | remark text => text

end Missing

namespace Value

def typeName (m : Model) : Value → String
  | null => "NoneType"
  | bool _ => "bool"
  | int _ => "int"
  | float _ => "float"
  | text _ => "str"
  | bytes _ => "bytes"
  | date _ => "date"
  | moment _ => "datetime"
  | list _ => "list"
  | tuple _ => "tuple"
  | set _ => "set"
  | map _ => "dict"
  | path _ => "PosixPath"
  | entity e => e.typeName m
  | kind _ => "EntityKind"
  | function (.bound ..) => "method"
  | function _ => "function"
  | record r _ => r.name
  | stream k _ => k.name
  | missing _ => "Undefined"

/-- How complaints about misuse name the type of a value: those of dates with the module they are
from. -/
def typeLabel (m : Model) : Value → String
  | date _ => "datetime.date"
  | moment _ => "datetime.datetime"
  | v => v.typeName m

def isFunction : Value → Bool
  | function _ => true
  | _ => false

def ofOption (f : α → Value) : Option α → Value
  | some x => f x
  | none => null

def ofTexts (items : List String) : Value := list (items.map text)

/-- Whether a value counts as true: empty collections and texts, zero and nothing do not. -/
def isTrue : Value → Bool
  | null | missing _ => false
  | bool b => b
  | int n => n ≠ 0
  | float x => x != 0.0
  | text s => s ≠ ""
  | bytes bs => !bs.isEmpty
  | list items | tuple items | set items => !items.isEmpty
  | map entries => !entries.isEmpty
  | _ => true

mutual

def isPlain : Value → Bool
  | null | bool _ | int _ | float _ | text _ => true
  | list items | tuple items | set items => arePlain items
  | map entries => entriesArePlain entries
  | _ => false

def arePlain : List Value → Bool
  | [] => true
  | v :: vs => isPlain v && arePlain vs

def entriesArePlain : List (Value × Value) → Bool
  | [] => true
  | (k, v) :: rest => isPlain k && isPlain v && entriesArePlain rest

end

inductive Amount
  | whole (n : Int)
  | real (x : Float)

def amount? : Value → Option Amount
  | bool b => some (.whole (if b then 1 else 0))
  | int n => some (.whole n)
  | float x => some (.real x)
  | _ => none

namespace Amount

/-- How two numbers compare; nothing when one of them is none. -/
def compare? : Amount → Amount → Option Ordering
  | whole a, whole b => some (compare a b)
  | whole a, real b => Number.compareInt? a b
  | real a, whole b => (Number.compareInt? b a).map Ordering.swap
  | real a, real b =>
    if a < b then some .lt else if a == b then some .eq else if b < a then some .gt else none

def same (a b : Amount) : Bool := a.compare? b == some .eq

end Amount

/-- Whether two values both stand for no number at all. As items of collections such values are the
same, although they are not equal. -/
def bothUndefined : Value → Value → Bool
  | float x, float y => x.isNaN && y.isNaN
  | _, _ => false

mutual

/-- Equality of values: numbers by what they stand for, moments by the point in time, collections
item by item. -/
def same : Value → Value → Bool
  | list a, list b => sameItems a b
  | tuple a, tuple b => sameItems a b
  | set a, set b => a.length == b.length && eachIn a b
  | map a, map b => a.length == b.length && eachEntryIn a b
  | record a xs, record b ys => a == b && sameFields xs ys
  | null, null => true
  | text a, text b => a == b
  | bytes a, bytes b => a == b
  | date a, date b => a == b
  | moment a, moment b => a.same b
  | path a, path b => a == b
  | entity a, entity b => a == b
  | kind a, kind b => a == b
  | stream _ a, stream _ b => a == b
  | missing _, missing _ => true
  | a, b =>
    match a.amount?, b.amount? with
    | some x, some y => x.same y
    | _, _ => false

def sameItems : List Value → List Value → Bool
  | [], [] => true
  | a :: as, b :: bs => (bothUndefined a b || same a b) && sameItems as bs
  | _, _ => false

def sameFields : List (String × Value) → List (String × Value) → Bool
  | [], [] => true
  | (k, a) :: as, (l, b) :: bs => k == l && (bothUndefined a b || same a b) && sameFields as bs
  | _, _ => false

def eachIn : List Value → List Value → Bool
  | [], _ => true
  | a :: as, bs => (bs.any fun b => bothUndefined a b || same a b) && eachIn as bs

def eachEntryIn : List (Value × Value) → List (Value × Value) → Bool
  | [], _ => true
  | (k, v) :: rest, bs =>
    (bs.any fun (k', v') =>
      (bothUndefined k k' || same k k') && (bothUndefined v v' || same v v'))
      && eachEntryIn rest bs

end

def agrees (a b : Value) : Bool := bothUndefined a b || same a b

mutual

/-- What keeps a value from being a key: collections that can change are none. -/
def keyObstacle? : Value → Option Value
  | tuple items => obstacleIn? items
  | v =>
    match v with
    | list _ | map _ | set _ | record .options _ => some v
    | _ => none

def obstacleIn? : List Value → Option Value
  | [] => none
  | v :: vs => (keyObstacle? v).or (obstacleIn? vs)

end

def isKey (v : Value) : Bool := v.keyObstacle?.isNone

def lookup? (key : Value) (entries : List (Value × Value)) : Option Value :=
  (entries.find? fun (k, _) => k.agrees key).map (·.2)

def field? (name : String) (entries : List (Value × Value)) : Option Value :=
  lookup? (text name) entries

/-- Puts a value under a key; a key that is there keeps its place and its spelling. -/
def insert (key value : Value) (entries : List (Value × Value)) : List (Value × Value) :=
  if entries.any fun (k, _) => k.agrees key then
    entries.map fun (k, v) => if k.agrees key then (k, value) else (k, v)
  else entries ++ [(key, value)]

end Value

end Codegen
