import Codegen.Text.Basic

/-!
White space in the sense of the Unicode classes `WS`, `B` and `S` of bidirectional text, together
with the space separators.
-/

namespace Codegen.Text

def isBlank (c : Char) : Bool :=
  let n := c.toNat
  (9 ≤ n && n ≤ 13) || (28 ≤ n && n ≤ 32) || n == 0x85 || n == 0xA0 || n == 0x1680
    || (0x2000 ≤ n && n ≤ 0x200A) || n == 0x2028 || n == 0x2029 || n == 0x202F || n == 0x205F
    || n == 0x3000

/-- Whether a character has the Unicode property `White_Space`. The four separators of information
are blanks without it. -/
def hasWhiteSpace (c : Char) : Bool := isBlank c && !(28 ≤ c.toNat && c.toNat ≤ 31)

def stripLeft (text : List Char) : List Char := text.dropWhile isBlank

def stripRight (text : List Char) : List Char := (text.reverse.dropWhile isBlank).reverse

def stripList (text : List Char) : List Char := stripRight (stripLeft text)

def strip (text : String) : String := String.ofList (stripList text.toList)

def isBlankText (text : String) : Bool := text.toList.all isBlank

def wordsList : List Char → List (List Char)
  | [] => []
  | c :: cs =>
    if isBlank c then wordsList cs
    else
      match cs, wordsList cs with
      | d :: _, word :: rest => if isBlank d then [c] :: word :: rest else (c :: word) :: rest
      | _, rest => [c] :: rest

def words (text : String) : List String := (wordsList text.toList).map String.ofList

end Codegen.Text
