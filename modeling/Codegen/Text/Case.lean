import Codegen.Text.Basic
import Codegen.Text.CaseTable

/-!
Case conversion of texts by the full Unicode mappings: a character may become several, and a capital
sigma at the end of a word has a form of its own in lower case.
-/

namespace Codegen.Text

def inRanges (ranges : List (Nat × Nat)) (c : Char) : Bool :=
  ranges.any fun (first, last) => first ≤ c.toNat && c.toNat ≤ last

def mapCase (runs : List CaseRun) (expansions : List (Nat × List Nat)) (c : Char) :
    Option (List Char) :=
  match runs.findSome? (·.image? c.toNat) with
  | some code => some [Char.ofNat code]
  | none => (expansions.lookup c.toNat).map (·.map Char.ofNat)

def lowerChar (c : Char) : List Char :=
  if c.toNat < 128 then [if isUpperLetter c then Char.ofNat (c.toNat + 32) else c]
  else (mapCase lowerRuns lowerExpansions c).getD [c]

def upperChar (c : Char) : List Char :=
  if c.toNat < 128 then [if isLowerLetter c then Char.ofNat (c.toNat - 32) else c]
  else (mapCase upperRuns upperExpansions c).getD [c]

def titleChar (c : Char) : List Char :=
  if c.toNat < 128 then upperChar c
  else (mapCase titleRuns titleExpansions c).getD (upperChar c)

def isCased (c : Char) : Bool :=
  if c.toNat < 128 then isLetter c else inRanges casedRanges c

def isCaseIgnorable (c : Char) : Bool := inRanges caseIgnorableRanges c

def capitalSigma : Char := 'Σ'

def meetsCased (text : List Char) : Bool :=
  match text.dropWhile isCaseIgnorable with
  | [] => false
  | c :: _ => isCased c

/-- Lower case of `c` between the reversed text `before` and the text `after`. -/
def lowerAt (before : List Char) (c : Char) (after : List Char) : List Char :=
  if c = capitalSigma then
    [if meetsCased before && !meetsCased after then 'ς' else 'σ']
  else lowerChar c

def lowerFrom (before : List Char) : List Char → List Char
  | [] => []
  | c :: cs => lowerAt before c cs ++ lowerFrom (c :: before) cs

def lowerList (text : List Char) : List Char := lowerFrom [] text

def upperList (text : List Char) : List Char := text.flatMap upperChar

def titleFrom (before : List Char) : List Char → List Char
  | [] => []
  | c :: cs =>
    (if before.head?.any isCased then lowerAt before c cs else titleChar c)
      ++ titleFrom (c :: before) cs

def lower (text : String) : String := String.ofList (lowerList text.toList)

def upper (text : String) : String := String.ofList (upperList text.toList)

def title (text : String) : String := String.ofList (titleFrom [] text.toList)

def capitalize (text : String) : String :=
  match text.toList with
  | [] => ""
  | c :: cs => String.ofList (titleChar c ++ lowerFrom [c] cs)

def lowerFirstList : List Char → List Char
  | [] => []
  | c :: cs => lowerAt [] c [] ++ cs

def upperFirstList : List Char → List Char
  | [] => []
  | c :: cs => upperChar c ++ cs

def lowerFirst (text : String) : String := String.ofList (lowerFirstList text.toList)

def upperFirst (text : String) : String := String.ofList (upperFirstList text.toList)

end Codegen.Text
