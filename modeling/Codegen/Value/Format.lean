import Codegen.Failure.Basic
import Codegen.Number.Literal
import Codegen.Number.Rounding
import Codegen.Value.Display

/-!
Patterns with places to fill in: a percent sign, a key in brackets, flags, a width, a precision, and
a letter for the form that the value takes. Values are taken from the left, or from a mapping by
key.
-/

namespace Codegen.Value

/-! Writing values out. No number of more than `Number.digitLimit` digits is written in decimal. -/

def unwritable : Nat := Number.tenTo Number.digitLimit

mutual

def hasUnwritable : Value → Bool
  | int n => unwritable ≤ n.natAbs
  | list items | tuple items | set items => haveUnwritable items
  | map entries => entriesHaveUnwritable entries
  | _ => false

def haveUnwritable : List Value → Bool
  | [] => false
  | v :: vs => hasUnwritable v || haveUnwritable vs

def entriesHaveUnwritable : List (Value × Value) → Bool
  | [] => false
  | (k, v) :: rest => hasUnwritable k || hasUnwritable v || entriesHaveUnwritable rest

end

def writtenAs (form : Value → String) (v : Value) : Except Failure String :=
  if v.hasUnwritable then .error (.misuse (.tooManyDigits none)) else .ok (form v)

def written (m : Model) (v : Value) : Except Failure String := v.writtenAs (display m)

theorem written_text (m : Model) (s : String) : (text s).written m = .ok s := rfl

open Codegen.Model

structure Layout where
  fromLeft : Bool := false
  zeros : Bool := false
  signs : Bool := false
  blanks : Bool := false
  alternate : Bool := false
  width : Nat := 0
  precision : Option Nat := none

namespace Layout

def flag? (layout : Layout) : Char → Option Layout
  | '-' => some { layout with fromLeft := true }
  | '0' => some { layout with zeros := true }
  | '+' => some { layout with signs := true }
  | ' ' => some { layout with blanks := true }
  | '#' => some { layout with alternate := true }
  | _ => none

def pad (layout : Layout) (text : String) : String :=
  if layout.fromLeft then Text.padRight layout.width text
  else Text.repeated (layout.width - text.length) " " ++ text

def text (layout : Layout) (s : String) : String :=
  layout.pad (layout.precision.elim s fun n => String.ofList (s.toList.take n))

/-- A number with its sign, a mark of its base and its digits. Zeros stand before the digits, blanks
before the sign. -/
def number (layout : Layout) (isNegative : Bool) (mark digits : String) : String :=
  let sign :=
    if isNegative then "-" else if layout.signs then "+" else if layout.blanks then " " else ""
  let zeros :=
    if layout.zeros && !layout.fromLeft then
      Text.repeated (layout.width - sign.length - mark.length - digits.length) "0"
    else ""
  layout.pad (sign ++ mark ++ zeros ++ digits)

end Layout

/-- A pattern that is being filled in: what is left of it and of the values, and the mapping that
keys are looked up in. -/
structure Filling where
  rest : List Char
  values : List Value
  mapping : Option Value := none

abbrev Fill (α : Type) := StateT Filling (Except Failure) α

namespace Fill

def fail {α : Type} (fault : FormatFault) : Fill α := throw (.misuse (.format fault))

def char? : Fill (Option Char) := do
  match (← get).rest with
  | [] => return none
  | c :: rest =>
    modify ({ · with rest })
    return some c

def skip (c : Char) : Fill Bool := do
  let found := (← get).rest.head? == some c
  if found then modify fun filling => { filling with rest := filling.rest.drop 1 }
  return found

def value : Fill Value := do
  match (← get).values with
  | [] => fail .tooFewValues
  | v :: values =>
    modify ({ · with values })
    return v

def entry (mapping : Value) (key : String) : Fill Value := do
  match mapping with
  | .map entries =>
    match Value.field? key entries with
    | some v => return v
    | none => fail (.unknownKey key)
  | .missing what => throw (.undefined what)
  | .bytes _ => fail (.indexType "byte")
  | v => fail (.indexType (v.typeName {}))

/-- The characters up to the bracket that closes `depth` open ones, and those behind it. -/
def bracketed? : (depth : Nat) → List Char → Option (List Char × List Char)
  | _, [] => none
  | depth, c :: cs =>
    let depth := if c = '(' then depth + 1 else if c = ')' then depth - 1 else depth
    if depth = 0 then some ([], cs)
    else (bracketed? depth cs).map fun (inside, rest) => (c :: inside, rest)

def key : Fill Unit := do
  if ← skip '(' then
    match (← get).mapping with
    | none => fail .notMapping
    | some mapping =>
      match bracketed? 1 (← get).rest with
      | none => fail .incompleteKey
      | some (name, rest) =>
        let v ← entry mapping (String.ofList name)
        modify ({ · with rest, values := [v] })

def flags : (fuel : Nat) → Layout → Fill Layout
  | 0, layout => pure layout
  | fuel + 1, layout => do
    match (← get).rest.head?.bind layout.flag? with
    | some layout =>
      let _ ← char?
      flags fuel layout
    | none => return layout

def digits (limit : Nat) (excess : FormatFault) : Fill Nat := do
  let rest := (← get).rest
  let digits := rest.takeWhile Text.isDigit
  let n := (Text.digits? 10 digits).getD 0
  if limit ≤ n then fail excess
  modify ({ · with rest := rest.drop digits.length })
  return n

def wordValue (limit : Nat) (excess : FormatFault) : Fill Int := do
  match ← value with
  | .bool b => return if b then 1 else 0
  | .int n => if -(limit : Int) ≤ n ∧ n < limit then return n else fail excess
  | _ => fail .widthType

def width (layout : Layout) : Fill Layout := do
  if ← skip '*' then
    let n ← wordValue Misuse.countLimit .widthRange
    return { layout with width := n.natAbs, fromLeft := layout.fromLeft || n < 0 }
  else return { layout with width := ← digits Misuse.countLimit .widthTooBig }

def precision (layout : Layout) : Fill Layout := do
  if ← skip '.' then
    if ← skip '*' then
      return { layout with precision := some (← wordValue Misuse.wordLimit .precisionRange).toNat }
    else return { layout with precision := some (← digits Misuse.wordLimit .precisionTooBig) }
  else return layout

end Fill

/-- The integer that a value counts as in a form for integers. Forms in other bases take no number
with a fraction. -/
def wholeFor (m : Model) (form : Char) (v : Value) : Except Failure Int :=
  let isDecimal := form = 'd' ∨ form = 'i' ∨ form = 'u'
  let refused : Except Failure Int :=
    .error (.misuse (.format
      (if isDecimal then .notNumber form (v.typeLabel m) else .notInteger form (v.typeLabel m))))
  match v, v.amount? with
  | .missing what, _ => if isDecimal then .error (.undefined what) else refused
  | _, some (.whole n) => .ok n
  | _, some (.real x) =>
    if isDecimal then
      match Number.truncate? x with
      | some n => .ok n
      | none => .error (.misuse (.format (if x.isNaN then .undefinedNumber else .infinite)))
    else refused
  | _, none => refused

def realFor (m : Model) (v : Value) : Except Failure Float :=
  match v, v.amount? with
  | .missing what, _ => .error (.undefined what)
  | _, some (.real x) => .ok x
  | _, some (.whole n) =>
    let x := Number.floatOfInt n
    if x.isInf then .error (.misuse .integerTooLarge) else .ok x
  | _, none => .error (.misuse (.format (.notReal (v.typeLabel m))))

def characterFor (v : Value) : Except Failure Char :=
  match v, v.amount? with
  | .text s, _ =>
    match s.toList with
    | [c] => .ok c
    | _ => .error (.misuse (.format .notCharacter))
  | _, some (.whole n) =>
    if 0 ≤ n ∧ n < 0x110000 then .ok (Char.ofNat n.toNat)
    else .error (.misuse (.format .characterRange))
  | _, _ => .error (.misuse (.format .notCharacter))

def widthLimit : Nat := 0x8000000

namespace Layout

def base (form : Char) : Nat :=
  if form = 'o' then 8 else if form = 'x' ∨ form = 'X' then 16 else 10

def whole (layout : Layout) (form : Char) (n : Int) : Except Failure String :=
  let least := layout.precision.getD 0
  if Misuse.wordLimit - 4 < least then .error (.misuse (.format .precisionTooLarge))
  else if widthLimit ≤ least then .error (.misuse .noMemory)
  else if base form = 10 ∧ unwritable ≤ n.natAbs then .error (.misuse (.tooManyDigits none))
  else
    let digits := Nat.toDigits (base form) n.natAbs
    let digits := List.replicate (least - digits.length) '0' ++ digits
    let isCapital := form = 'X'
    let digits := String.ofList (if isCapital then digits.map Char.toUpper else digits)
    let mark := if layout.alternate && base form ≠ 10 then "0" ++ String.singleton form else ""
    .ok (layout.number (n < 0) mark digits)

def real (layout : Layout) (form : Char) (x : Float) : Except Failure String :=
  let precision := layout.precision.getD 6
  let way : Number.FloatForm :=
    match form.toLower with
    | 'e' => .power
    | 'f' => .places
    | _ => .shorter
  if widthLimit ≤ precision then .error (.misuse .noMemory)
  else
    let digits := way.text layout.alternate precision x
    let digits := if form.isUpper then Text.upper digits else digits
    .ok (match Text.afterStart? "-" digits with
      | some magnitude => layout.number true "" magnitude
      | none => layout.number false "" digits)

end Layout

/-- The text of a value in the form of a letter; `index` is the place of the letter. -/
def formed (m : Model) (layout : Layout) (form : Char) (index : Nat) (v : Value) :
    Except Failure String :=
  match form with
  | 's' => do return layout.text (← v.written m)
  | 'r' => do return layout.text (← v.writtenAs (quoted m))
  | 'a' => do return layout.text (Text.quotedAscii (← v.writtenAs (quoted m)))
  | 'd' | 'i' | 'u' | 'o' | 'x' | 'X' => do layout.whole form (← v.wholeFor m form)
  | 'e' | 'E' | 'f' | 'F' | 'g' | 'G' => do layout.real form (← v.realFor m)
  | 'c' => do return layout.pad (String.singleton (← v.characterFor))
  | _ => .error (.misuse (.format (.unknownForm form index)))

/-- Fills in the place behind a percent sign; `length` is that of the whole pattern. -/
def fillPlace (m : Model) (length : Nat) : Fill String := do
  Fill.key
  let layout ← Fill.precision (← Fill.width (← Fill.flags length {}))
  let first ← Fill.char?
  let form ←
    if first == some 'h' || first == some 'l' || first == some 'L' then Fill.char? else pure first
  match form with
  | none => Fill.fail .incomplete
  | some form =>
    let index := length - (← get).rest.length - 1
    let v ← Fill.value
    if layout.width < widthLimit then formed m layout form index v
    else
      let _ ← formed m { layout with width := 0 } form index v
      throw (.misuse .noMemory)

def fill (m : Model) (length : Nat) : (fuel : Nat) → Fill String
  | 0 => pure ""
  | fuel + 1 => do
    match ← Fill.char? with
    | none => return ""
    | some '%' =>
      let text ← if ← Fill.skip '%' then pure "%" else fillPlace m length
      return text ++ (← fill m length fuel)
    | some c => return String.singleton c ++ (← fill m length fuel)

def isMapping : Value → Bool
  | map _ | list _ | bytes _ | missing _ => true
  | _ => false

/-- A pattern with its places filled in. All of the values have to be used, unless they are looked
up by key. -/
def filled (m : Model) (pattern : String) (v : Value) : Except Failure String := do
  let values := match v with
    | tuple items => items
    | v => [v]
  let mapping := if v.isMapping then some v else none
  let length := pattern.length
  let (filledIn, left) ← (fill m length (length + 1)).run { rest := pattern.toList, values, mapping }
  if left.values.isEmpty ∨ mapping.isSome then return filledIn
  else throw (.misuse (.format .unusedValues))

end Codegen.Value
