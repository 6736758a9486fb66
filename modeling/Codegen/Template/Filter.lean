import Codegen.Template.Scope

/-!
The filters that every template can use.
-/

namespace Codegen.Template

open Codegen.Model

/-- A filter: its parameters, the first of which is the subject, and what it makes of the subject
and the values that the others are given. -/
structure Filter where
  signature : Signature
  apply : Scope → Value → (String → Option Value) → Eval Value

namespace Filter

def onText (name : String) (change : String → String) : Filter where
  signature := { name, required := ["s"] }
  apply scope v _ := do return .text (change (← v.written scope.model))

/-- The characters that begin a new word for the filter `title`. -/
def separates (c : Char) : Bool := Text.isBlank c || "-(\x7b[<".toList.contains c

/-- Every word with a capital and small letters after it; `inside` tells that a word is going on. -/
def titleFrom (inside : Bool) (before : List Char) : List Char → List Char
  | [] => []
  | c :: cs =>
    if separates c then c :: titleFrom false [] cs
    else if inside then
      Text.lowerAt before c (cs.takeWhile fun d => !separates d) ++ titleFrom true (c :: before) cs
    else Text.upperChar c ++ titleFrom true [] cs

def trimOf (set : List Char) (text : String) : String :=
  let inSet (c : Char) : Bool := set.contains c
  String.ofList ((text.toList.dropWhile inSet).reverse.dropWhile inSet).reverse

/-- The steps that an attribute in writing stands for: names and positions with dots between
them. -/
def steps (path : String) : List Value :=
  (Text.split "." path).map fun step =>
    match Text.digits? 10 step.toList with
    | some n => .int n
    | none => .text step

/-- The indices that lead to what a parameter `attribute` asks for. -/
def stepsTo : Option Value → List Value
  | none | some .null => []
  | some (.text path) => steps path
  | some index => [index]

def join : Filter where
  signature :=
    { name := "sync_do_join", supplied := ["eval_ctx"], required := ["value"],
      optional := ["d", "attribute"] }
  apply scope v given := do
    let mark ← ((given "d").getD (.text "")).written scope.model
    let path := stepsTo (given "attribute")
    let items ← (← itemsOf scope.model v).mapM fun item => scope.along path item
    return .text (Text.join mark (← items.mapM fun item => item.written scope.model))

def default : Filter where
  signature :=
    { name := "do_default", required := ["value"], optional := ["default_value", "boolean"] }
  apply _ v given :=
    let instead := (given "default_value").getD (.text "")
    let counts := match v with
      | .missing _ => false
      | v => v.isTrue || !((given "boolean").getD .null).isTrue
    return if counts then v else instead

/-- How often to replace at most; a negative number sets no limit. -/
def replacements (m : Model) (count : Value) :
    Except Failure (String → String → String → String) :=
  match count, count.amount? with
  | .null, _ => .ok Text.replace
  | _, some (.whole n) =>
    if -Misuse.countLimit ≤ n ∧ n < Misuse.countLimit then
      .ok (if n < 0 then Text.replace else Text.replaceFirst n.toNat)
    else .error (.misuse .wordTooLarge)
  | _, _ => .error (.misuse (.integer (count.typeLabel m)))

def replace : Filter where
  signature :=
    { name := "do_replace", supplied := ["eval_ctx"], required := ["s", "old", "new"],
      optional := ["count"] }
  apply scope v given := do
    let shown (name : String) : Except Failure String :=
      ((given name).getD .null).written scope.model
    let text ← v.written scope.model
    let old ← shown "old"
    let new ← shown "new"
    return .text ((← replacements scope.model ((given "count").getD .null)) old new text)

def trim : Filter where
  signature := { name := "do_trim", required := ["value"], optional := ["chars"] }
  apply scope v given := do
    let text ← v.written scope.model
    match given "chars" with
    | none | some .null => return .text (Text.strip text)
    | some (.text set) => return .text (trimOf set.toList text)
    | some _ => throw (.misuse .stripSet)

/-- A value as a key for sorting; capitals count as small letters unless the sorting is exact. -/
def sortKey (isExact : Bool) : Value → Value
  | .text s => .text (if isExact then s else Text.lower s)
  | v => v

def sort : Filter where
  signature :=
    { name := "do_sort", supplied := ["environment"], required := ["value"],
      optional := ["reverse", "case_sensitive", "attribute"] }
  apply scope v given := do
    let isSet (name : String) : Bool := ((given name).getD .null).isTrue
    let paths := match given "attribute" with
      | some (.text paths) => (Text.split "," paths).map steps
      | index => [stepsTo index]
    let keyed ← (← itemsOf scope.model v).mapM fun item => do
      let keys ← paths.mapM fun path => scope.along path item
      return Value.tuple [.list (keys.map (sortKey (isSet "case_sensitive"))), item]
    let part (i : Nat) (v : Value) : Value := (v.at? (.int i)).getD .null
    let sorted (items : List Value) := Value.sortBy scope.model (part 0) items
    if isSet "reverse" then
      return .list ((← sorted keyed.reverse).reverse.map (part 1))
    else return .list ((← sorted keyed).map (part 1))

def noItem (side : String) : Value := .missing (.remark s!"No {side} item, sequence was empty.")

def first : Filter where
  signature := { name := "sync_do_first", supplied := ["environment"], required := ["seq"] }
  apply scope v _ := do return (← firstOf scope.model v).getD (noItem "first")

def last : Filter where
  signature := { name := "do_last", supplied := ["environment"], required := ["seq"] }
  apply scope v _ := do return (← lastOf scope.model v).getD (noItem "last")

def reverse : Filter where
  signature := { name := "do_reverse", required := ["value"] }
  apply scope v _ := reversed scope.model v

def length : Filter where
  signature := { name := "len", required := ["obj"] }
  apply scope v _ := v.length scope.model

def all : List (String × Filter) :=
  [("upper", onText "do_upper" Text.upper), ("lower", onText "do_lower" Text.lower),
   ("title", onText "do_title" fun s => String.ofList (titleFrom false [] s.toList)),
   ("capitalize", onText "do_capitalize" Text.capitalize), ("length", length), ("count", length),
   ("join", join), ("default", default), ("d", default), ("replace", replace), ("trim", trim),
   ("sort", sort), ("reverse", reverse), ("first", first), ("last", last)]

/-- The values that a filter's parameters are given. A length has one subject and no names. -/
def arguments (name : String) (filter : Filter) (positional : List Value)
    (named : List (String × Value)) : Except Failure (List (String × Value)) :=
  if name = "length" ∨ name = "count" then
    if !named.isEmpty then filter.signature.fault .named
    else if positional.length = 1 then .ok []
    else filter.signature.fault (.notOne positional.length)
  else filter.signature.bind positional named

end Filter

/-- Applies the filter of a name: a helper before the filters that every template has. -/
def Scope.filtered (scope : Scope) (name : String) (subject : Value) (positional : List Value)
    (named : List (String × Value)) : Eval Value :=
  match scope.helpers.lookup name with
  | some helper => Mixin.invoke scope.model scope.registry helper (subject :: positional) named
  | none =>
    match Filter.all.lookup name with
    | some filter => do
      let given ← filter.arguments name (subject :: positional) named
      filter.apply scope subject fun parameter => given.lookup parameter
    | none => throw (.filterGone name)

def tests : List (String × (Value → Bool)) :=
  [("defined", fun v => !isMissing v), ("undefined", isMissing),
   ("none", fun
     | .null => true
     | _ => false)]
where
  isMissing : Value → Bool
    | .missing _ => true
    | _ => false

def passes (name : String) (subject : Value) (positional : List Value)
    (named : List (String × Value)) : Except Failure Bool :=
  match tests.lookup name with
  | some test => do
    let signature : Signature := { name := "test_" ++ name, required := ["value"] }
    let _ ← signature.bind (subject :: positional) named
    return test subject
  | none => .error (.filterGone name)

def Scope.knowsFilter (scope : Scope) (name : String) : Bool :=
  (scope.helpers.lookup name).isSome || (Filter.all.lookup name).isSome

def knowsTest (name : String) : Bool := (tests.lookup name).isSome

end Codegen.Template
