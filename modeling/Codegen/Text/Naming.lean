import Codegen.Text.Blank
import Codegen.Text.Case

/-!
Conversions between the ways of writing a compound name: `order_line`, `orderLine`, `OrderLine`.
-/

namespace Codegen.Text

def separateCapitals : List Char → List Char
  | [] => []
  | [c] => [c]
  | c :: d :: cs =>
    if (isLowerLetter c || isDigit c) && isUpperLetter d then
      c :: '_' :: separateCapitals (d :: cs)
    else c :: separateCapitals (d :: cs)

def separateEachCapital : List Char → List Char
  | [] => []
  | c :: cs => c :: cs.flatMap (fun d => if isUpperLetter d then ['_', d] else [d])

/-- Replaces each maximal run of characters in `isGap` by one low line. -/
def closeGaps (isGap : Char → Bool) : List Char → List Char
  | [] => []
  | [c] => [if isGap c then '_' else c]
  | c :: d :: cs =>
    if isGap c then
      if isGap d then closeGaps isGap (d :: cs) else '_' :: closeGaps isGap (d :: cs)
    else c :: closeGaps isGap (d :: cs)

def isWordGap (c : Char) : Bool := isBlank c || c == '-'

def snakeCaseList (text : List Char) : List Char :=
  lowerList (closeGaps isWordGap (separateCapitals text))

/-- The maximal runs of characters outside `isGap`. -/
def runsOutside (isGap : Char → Bool) : List Char → List (List Char)
  | [] => []
  | c :: cs =>
    if isGap c then runsOutside isGap cs
    else
      match cs, runsOutside isGap cs with
      | d :: _, run :: rest => if isGap d then [c] :: run :: rest else (c :: run) :: rest
      | _, rest => [c] :: rest

def isNameGap (c : Char) : Bool := isWordGap c || c == '_'

def camelCaseList (text : List Char) : List Char :=
  match runsOutside isNameGap text with
  | [] => []
  | part :: parts => lowerFirstList part ++ parts.flatMap upperFirstList

/-- `OrderLine` and `order line` become `order_line`. -/
def snakeCase (text : String) : String := String.ofList (snakeCaseList text.toList)

/-- `order_line` becomes `orderLine`. -/
def camelCase (text : String) : String := String.ofList (camelCaseList text.toList)

/-- The name of the module that a class named `text` is generated into. -/
def moduleName (text : String) : String :=
  String.ofList (lowerList (separateCapitals text.toList))

end Codegen.Text
