import Codegen.Number.Literal
import Codegen.Text.Base64
import Codegen.Text.Case
import Codegen.Yaml.Node
import Codegen.Yaml.Resolution

/-!
Values of documents. The tag of a node, written or found from its spelling, decides what is made of
it.
-/

namespace Codegen.Yaml

def tagBase : String := "tag:yaml.org,2002:"

def textTag : String := tagBase ++ "str"

def kindTag : ScalarKind → String
  | .boolean => tagBase ++ "bool"
  | .real => tagBase ++ "float"
  | .integer => tagBase ++ "int"
  | .merge => tagBase ++ "merge"
  | .null => tagBase ++ "null"
  | .timestamp => tagBase ++ "timestamp"
  | .defaultValue => tagBase ++ "value"
  | .text => textTag

namespace Node

def tag : Node → String
  | .scalar (some tag) .. => tag
  | .scalar none plain text => if plain then kindTag (spelledKind text) else textTag
  | .sequence tag _ => tag.getD (tagBase ++ "seq")
  | .mapping tag _ => tag.getD (tagBase ++ "map")
  | .reference _ => ""

def isDefaultKey (key : Node) : Bool := key.tag = tagBase ++ "value"

def isMergeKey (key : Node) : Bool := key.tag = tagBase ++ "merge"

def asText : Node → Node
  | .scalar _ plain text => .scalar (some textTag) plain text
  | .sequence _ items => .sequence (some textTag) items
  | .mapping _ entries => .mapping (some textTag) entries
  | .reference anchor => .reference anchor

mutual

def scalarText? : Node → Option String
  | .scalar _ _ text => some text
  | .mapping _ entries => defaultText? entries
  | .sequence .. | .reference _ => none

def defaultText? : List (Node × Node) → Option String
  | [] => none
  | (key, value) :: rest => if key.isDefaultKey then scalarText? value else defaultText? rest

end

end Node

def withoutEnd (text : String) : String :=
  if Text.hasEnd "\n" text then Text.dropEnd 1 text else text

def withoutGaps (text : String) : List Char := text.toList.filter (· ≠ '_')

def sexagesimal (parts : List Int) : Int := parts.foldl (fun n part => n * 60 + part) 0

def integerOf (base : Nat) (digits : List Char) : Except Unreadable Int :=
  match Number.parseInt? base (String.ofList digits) with
  | some n => .ok n
  | none =>
    let count := Number.digitCount digits
    .error (.misuse
      (if base = 10 ∧ Number.digitLimit < count then .tooManyDigits (some count)
      else .integerSpelling base (String.ofList digits)))

def realOf (digits : List Char) : Except Unreadable Float :=
  match Number.parseFloat? (String.ofList digits) with
  | some x => .ok x
  | none => .error (.misuse (.realSpelling (String.ofList digits)))

def integerValue (text : String) : Except Unreadable Value := do
  let digits := withoutGaps text
  if digits.isEmpty then throw .emptyNumber
  let negative := digits.head? = some '-'
  let magnitude ←
    match dropSign digits with
    | [] => throw .emptyNumber
    | ['0'] => pure 0
    | '0' :: 'b' :: rest => integerOf 2 rest
    | '0' :: 'x' :: rest => integerOf 16 rest
    | '0' :: rest => integerOf 8 ('0' :: rest)
    | unsigned =>
      if unsigned.contains ':' then
        sexagesimal <$> (Text.splitList [':'] unsigned).mapM (integerOf 10)
      else integerOf 10 unsigned
  return .int (if negative then -magnitude else magnitude)

def realValue (text : String) : Except Unreadable Value := do
  let digits := Text.lowerList (withoutGaps text)
  if digits.isEmpty then throw .emptyNumber
  let negative := digits.head? = some '-'
  let unsigned := dropSign digits
  if unsigned = ".nan".toList then return .float (0.0 / 0.0)
  let magnitude ←
    if unsigned = ".inf".toList then pure (1.0 / 0.0)
    else if unsigned.contains ':' then do
      let parts ← (Text.splitList [':'] unsigned).mapM realOf
      let (sum, _) := parts.reverse.foldl
        (fun (sum, base) part => (sum + part * Number.floatOfInt base, base * 60))
        ((0.0 : Float), (1 : Int))
      pure sum
    else realOf unsigned
  return .float (if negative then -magnitude else magnitude)

def digitsValue (digits : List Char) : Nat := (Text.digits? 10 digits).getD 0

def timestampValue (text : String) : Except Unreadable Value := do
  let some t := timestamp? (withoutEnd text).toList | throw .moment
  let date : Date := ⟨digitsValue t.year, digitsValue t.month, digitsValue t.day⟩
  match t.time with
  | none =>
    match date.fault? with
    | some fault => throw (.misuse (.calendar fault))
    | none => return .date date
  | some (hour, minute, second, fraction) =>
    let micro := digitsValue ((fraction.take 6) ++ List.replicate (6 - fraction.length) '0')
    let offset : Option Int := t.zone.map fun
      | none => 0
      | some (negative, hours, minutes) =>
        let n : Int := digitsValue hours * 3600 + digitsValue minutes * 60
        if negative then -n else n
    let moment : Moment :=
      ⟨date, digitsValue hour, digitsValue minute, digitsValue second, micro, offset⟩
    match moment.fault? with
    | some fault => throw (.misuse (.calendar fault))
    | none => return .moment moment

def markedCodes : List Char → List Nat
  | [] => []
  | [c] => [c.toNat]
  | c :: d :: rest =>
    if c = halfMark then
      (if d = halfMark then d.toNat else Text.halfBase + d.toNat) :: markedCodes rest
    else c.toNat :: markedCodes (d :: rest)

def codeBytes (code : Nat) : List UInt8 :=
  if Text.isHalf code then Text.halfBytes code else (String.singleton (.ofNat code)).toUTF8.toList

def textValue (text : String) : Value :=
  let codes := markedCodes text.toList
  if codes.any Text.isHalf then .bytes (codes.flatMap codeBytes)
  else .text (String.ofList (codes.map Char.ofNat))

def scalarValue (tag text : String) : Except Unreadable Value :=
  if tag = textTag then .ok (textValue text)
  else if tag = tagBase ++ "null" then .ok .null
  else if tag = tagBase ++ "bool" then
    let word := Text.lower text
    match booleanWords.lookup word with
    | some b => .ok (.bool b)
    | none => .error (.misuse (.entry (Text.quoted word)))
  else if tag = tagBase ++ "int" then integerValue text
  else if tag = tagBase ++ "float" then realValue text
  else if tag = tagBase ++ "timestamp" then timestampValue text
  else if tag = tagBase ++ "binary" then
    if text.toList.all (·.toNat < 128) then
      match Text.decodeBase64? text with
      | some bytes => .ok (.bytes bytes)
      | none => .error .yaml
    else .error .yaml
  else .error .yaml

def mergedEntries : (depth : Nat) → List (Node × Node) → Except Unreadable (List (Node × Node))
  | 0, _ => .error .yaml
  | depth + 1, entries => do
    let own := (entries.filter fun (key, _) => !key.isMergeKey).map fun (key, value) =>
      (if key.isDefaultKey then key.asText else key, value)
    let merged ← (entries.filter fun (key, _) => key.isMergeKey).mapM fun (_, value) =>
      match value with
      | .mapping _ inner => mergedEntries depth inner
      | .sequence _ items => do
        let parts ← items.mapM fun
          | .mapping _ inner => mergedEntries depth inner
          | _ => .error .yaml
        return parts.reverse.flatten
      | _ => .error .yaml
    return merged.flatten ++ own

def pairsValue (value : Node → Except Unreadable Value) (items : List Node) :
    Except Unreadable Value := do
  let pairs ← items.mapM fun
    | .mapping _ [(key, item)] => do return Value.tuple [← value key, ← value item]
    | _ => .error .yaml
  return .list pairs

/-- The value of a node; nodes nest at most `depth` deep. -/
def value : (depth : Nat) → Node → Except Unreadable Value
  | 0, _ => .error .yaml
  | depth + 1, node => do
    let tag := node.tag
    let entries (inner : List (Node × Node)) : Except Unreadable (List (Value × Value)) := do
      (← mergedEntries depth inner).foldlM
        (fun done (key, item) => do
          let key ← value depth key
          if key.isKey then return Value.insert key (← value depth item) done else throw .yaml)
        []
    match node with
    | .sequence _ items =>
      if tag = tagBase ++ "seq" then return .list (← items.mapM (value depth))
      else if tag = tagBase ++ "omap" ∨ tag = tagBase ++ "pairs" then
        pairsValue (value depth) items
      else throw .yaml
    | .mapping _ inner =>
      if tag = tagBase ++ "map" then return .map (← entries inner)
      else if tag = tagBase ++ "set" then return .set ((← entries inner).map (·.1))
      else
        match node.scalarText? with
        | some text => scalarValue tag text
        | none => throw .yaml
    | .scalar _ _ text => scalarValue tag text
    | .reference _ => throw .yaml

def collectionTags : List String := ["map", "seq", "set", "omap", "pairs"].map (tagBase ++ ·)

/-- What is left to be looked into after a node is met: scalars are worked out at once. -/
def met (node : Node) : Except Unreadable (List Node) :=
  match node with
  | .reference _ => .ok []
  | node =>
    if node.tag ∈ collectionTags then .ok [node]
    else
      match node.scalarText? with
      | some text => (scalarValue node.tag text).map fun _ => []
      | none => .error .yaml

def metEntry (asKey : Bool) (key item : Node) : Except Unreadable (List Node) := do
  let ahead ← met key
  if asKey ∧ !ahead.isEmpty then throw .yaml
  return ahead ++ (← met item)

def metInside (depth : Nat) (node : Node) : Except Unreadable (List Node) :=
  match node with
  | .sequence _ items =>
    if node.tag = tagBase ++ "seq" then do return (← items.mapM met).flatten
    else if node.tag = tagBase ++ "omap" ∨ node.tag = tagBase ++ "pairs" then do
      return (← items.mapM fun
        | .mapping _ [(key, item)] => metEntry false key item
        | _ => .error .yaml).flatten
    else .error .yaml
  | .mapping _ entries =>
    if node.tag = tagBase ++ "map" ∨ node.tag = tagBase ++ "set" then do
      return (← (← mergedEntries depth entries).mapM fun (key, item) =>
        metEntry true key item).flatten
    else .error .yaml
  | _ => .error .yaml

/-- The first fault in a document. It is gone through level by level. -/
def fault? : (depth : Nat) → List Node → Option Unreadable
  | 0, _ | _, [] => none
  | depth + 1, level =>
    match level.mapM (metInside depth) with
    | .error cause => some cause
    | .ok next => fault? depth next.flatten

mutual

def height : Node → Nat
  | .scalar .. | .reference _ => 1
  | .sequence _ items => 1 + heightItems items
  | .mapping _ entries => 1 + heightEntries entries

def heightItems : List Node → Nat
  | [] => 0
  | node :: nodes => max (height node) (heightItems nodes)

def heightEntries : List (Node × Node) → Nat
  | [] => 0
  | (key, item) :: entries => max (max (height key) (height item)) (heightEntries entries)

end

mutual

def recurs : Node → Bool
  | .scalar .. => false
  | .reference _ => true
  | .sequence tag items => tag.isNone && recursInItems items
  | .mapping tag entries => tag.isNone && recursInEntries entries

def recursInItems : List Node → Bool
  | [] => false
  | item :: rest => recurs item || recursInItems rest

def recursInEntries : List (Node × Node) → Bool
  | [] => false
  | (key, item) :: rest =>
    let isReference := match item with
      | .reference _ => true
      | _ => false
    (!(key.isMergeKey && isReference) && recurs item) || recursInEntries rest

end

/-- What was read: a value, and whether it holds itself. A value that does is followed only as far
as documents are looked into. -/
structure Reading where
  value : Value
  holdsItself : Bool

/-- How deep nodes nest at most. The calls under way when a document is read take the rest of what the
language allows. -/
def nestingLimit : Nat := 480

/-- The value of a document; an empty one is no value. -/
def read (text : String) : Except Unreadable Reading := do
  match ← parse text.toList with
  | none => return ⟨.null, false⟩
  | some document =>
    if nestingLimit < height document.root then throw .nesting
    let node := document.unfolded
    let depth := height node + 1
    match fault? depth (← met node) with
    | some cause => throw cause
    | none => return ⟨← value depth node, recurs document.root⟩

end Codegen.Yaml
