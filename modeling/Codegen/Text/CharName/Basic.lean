import Codegen.Text.Basic
import Codegen.Text.CharName.Alias
import Codegen.Text.CharName.Ancient
import Codegen.Text.CharName.Glyph
import Codegen.Text.CharName.Letter
import Codegen.Text.CharName.Notation
import Codegen.Text.CharName.Picture
import Codegen.Text.CharName.Script
import Codegen.Text.CharName.Sign
import Codegen.Text.CharName.Syllabic

/-!
Characters by their names. The names of most characters are listed. Those of the Korean syllables
are put together from the names of their letters, and the characters of some families are named by
their code points. Capital and small letters are alike in a name, except in the names of Korean
syllables and of the unified ideographs.
-/

namespace Codegen.Text.CharName

def leads : List String :=
  ["G", "GG", "N", "D", "DD", "R", "M", "B", "BB", "S", "SS", "", "J", "JJ", "C", "K", "T", "P",
   "H"]

def vowels : List String :=
  ["A", "AE", "YA", "YAE", "EO", "E", "YEO", "YE", "O", "WA", "WAE", "OE", "YO", "U", "WEO", "WE",
   "WI", "YU", "EU", "YI", "I"]

def trails : List String :=
  ["", "G", "GG", "GS", "N", "NJ", "NH", "D", "L", "LG", "LM", "LB", "LS", "LT", "LP", "LH", "M",
   "B", "BS", "S", "SS", "NG", "J", "C", "K", "T", "P", "H"]

def longest? (names : List String) (text : List Char) : Option (Nat × List Char) :=
  let found := names.zipIdx.filterMap fun (name, place) =>
    (dropStart? name.toList text).map fun rest => (place, rest)
  found.foldl (fun best candidate =>
    match best with
    | some (_, rest) => if candidate.2.length < rest.length then some candidate else best
    | none => some candidate) none

def syllable? (name : List Char) : Option Char := do
  let (lead, rest) ← longest? leads (← dropStart? "HANGUL SYLLABLE ".toList name)
  let (vowel, rest) ← longest? vowels rest
  let (trail, rest) ← longest? trails rest
  if rest.isEmpty then
    return Char.ofNat (0xAC00 + (lead * vowels.length + vowel) * trails.length + trail)
  else none

/-- The code points of the unified ideographs: the first and the last of each block. -/
def ideographs : List (Nat × Nat) :=
  [(0x3400, 0x4DBF), (0x4E00, 0x9FFF), (0x20000, 0x2A6DF), (0x2A700, 0x2B738), (0x2B740, 0x2B81D),
   (0x2B820, 0x2CEA1), (0x2CEB0, 0x2EBE0), (0x30000, 0x3134A)]

def families : List (String × List (Nat × Nat)) :=
  [("CJK COMPATIBILITY IDEOGRAPH-", [(0xF900, 0xFA6D), (0xFA70, 0xFAD9), (0x2F800, 0x2FA1D)]),
   ("KHITAN SMALL SCRIPT CHARACTER-", [(0x18B00, 0x18CD5)]),
   ("NUSHU CHARACTER-", [(0x1B170, 0x1B2FB)])]

def coded? (blocks : List (Nat × Nat)) (digits : List Char) : Option Char := do
  let code ← digits? 16 digits
  if (digits.length = 4 ∨ digits.length = 5) && digits.all (fun c => isDigit c || isUpperLetter c)
      && blocks.any (fun (first, last) => first ≤ code && code ≤ last) then
    return Char.ofNat code
  else none

def ideograph? (name : List Char) : Option Char := do
  coded? ideographs (← dropStart? "CJK UNIFIED IDEOGRAPH-".toList name)

def member? (name : List Char) : Option Char :=
  families.findSome? fun (family, blocks) => do
    let digits ← dropStart? family.toList name
    if digits.head? = some '0' then none else coded? blocks digits

def inRow? (name : List Char) (row : String) : Option Char := do
  let (code, names) ← cutList? [' '] row.toList
  let (family, names) := ((cutList? [':', ' '] names).map fun (family, names) =>
    (family ++ [' '], names)).getD ([], names)
  let rest ← dropStart? family name
  let place ← (splitList [',', ' '] names).findIdx? fun listed => decide (listed = rest)
  return Char.ofNat ((← digits? 16 code) + place)

def tables : List (List String) :=
  [letterRows, scriptRows, signRows, syllabicRows, ancientRows, glyphRows, notationRows,
   pictureRows, aliasRows]

def listed? (name : List Char) : Option Char :=
  tables.findSome? fun rows => rows.findSome? (inRow? name)

def ofName? (name : List Char) : Option Char :=
  let capitals := name.map Char.toUpper
  (syllable? name).or ((ideograph? name).or ((member? capitals).or (listed? capitals)))

end Codegen.Text.CharName
