/-!
Searching, cutting and joining of texts. The work is done on lists of characters; each operation has
a form on `String` of the same name in the namespace `Codegen.Text`.
-/

namespace Codegen.Text

def dropStart? : (start text : List Char) → Option (List Char)
  | [], text => some text
  | _ :: _, [] => none
  | p :: ps, c :: cs => if p = c then dropStart? ps cs else none

theorem dropStart?_eq_some_iff {start text rest : List Char} :
    dropStart? start text = some rest ↔ text = start ++ rest := by
  induction start generalizing text with
  | nil => simp [dropStart?, eq_comm]
  | cons p ps ih =>
    cases text with
    | nil => simp [dropStart?]
    | cons c cs =>
      by_cases h : p = c
      · subst h; simp [dropStart?, ih]
      · simp [dropStart?, h, eq_comm]

def cutList? (mark : List Char) : List Char → Option (List Char × List Char)
  | [] => if mark.isEmpty then some ([], []) else none
  | c :: cs =>
    match dropStart? mark (c :: cs) with
    | some rest => some ([], rest)
    | none => (cutList? mark cs).map fun (before, after) => (c :: before, after)

theorem eq_of_cutList? {mark text before after : List Char}
    (h : cutList? mark text = some (before, after)) : text = before ++ mark ++ after := by
  induction text generalizing before with
  | nil => cases mark <;> simp_all [cutList?]
  | cons c cs ih =>
    unfold cutList? at h
    split at h
    · next rest hrest =>
      simp only [Option.some.injEq, Prod.mk.injEq] at h
      obtain ⟨rfl, rfl⟩ := h
      simpa using dropStart?_eq_some_iff.mp hrest
    · simp only [Option.map_eq_some_iff, Prod.exists, Prod.mk.injEq] at h
      obtain ⟨before', after', hcut, rfl, rfl⟩ := h
      simp [ih hcut]

theorem length_lt_of_cutList? {mark text before after : List Char} (hmark : mark ≠ [])
    (h : cutList? mark text = some (before, after)) : after.length < text.length := by
  have hpos := List.length_pos_iff.mpr hmark
  rw [eq_of_cutList? h]
  simp only [List.length_append]
  omega

/-- The pieces between the occurrences of `mark`, taken from the left; an empty `mark` never
occurs. -/
def splitList (mark text : List Char) : List (List Char) :=
  if _hmark : mark = [] then [text]
  else
    match _h : cutList? mark text with
    | none => [text]
    | some (before, after) => before :: splitList mark after
termination_by text.length
decreasing_by exact length_lt_of_cutList? ‹_› ‹_›

def joinList (mark : List Char) : List (List Char) → List Char
  | [] => []
  | [piece] => piece
  | piece :: next :: pieces => piece ++ mark ++ joinList mark (next :: pieces)

/-- Replaces the occurrences of `pattern`, taken from the left; the empty pattern occurs before each
character and at the end. -/
def replaceList (pattern replacement text : List Char) : List Char :=
  if pattern = [] then
    replacement ++ text.flatMap (fun c => c :: replacement)
  else
    joinList replacement (splitList pattern text)

def replaceFirstList (n : Nat) (pattern replacement text : List Char) : List Char :=
  if pattern = [] then
    (text.take n).flatMap (fun c => replacement ++ [c])
      ++ (if text.length < n then replacement else text.drop n)
  else
    let pieces := splitList pattern text
    if pieces.length ≤ n then joinList replacement pieces
    else joinList replacement (pieces.take n ++ [joinList pattern (pieces.drop n)])

def cut? (mark text : String) : Option (String × String) :=
  (cutList? mark.toList text.toList).map fun (before, after) =>
    (String.ofList before, String.ofList after)

def cutLast? (mark text : String) : Option (String × String) :=
  (cutList? mark.toList.reverse text.toList.reverse).map fun (after, before) =>
    (String.ofList before.reverse, String.ofList after.reverse)

def afterStart? (start text : String) : Option String :=
  (dropStart? start.toList text.toList).map String.ofList

def beforeEnd? (ending text : String) : Option String :=
  (dropStart? ending.toList.reverse text.toList.reverse).map fun rest => String.ofList rest.reverse

def hasStart (start text : String) : Bool := (dropStart? start.toList text.toList).isSome

def hasEnd (ending text : String) : Bool :=
  (dropStart? ending.toList.reverse text.toList.reverse).isSome

def contains (part text : String) : Bool := (cutList? part.toList text.toList).isSome

def split (mark text : String) : List String :=
  (splitList mark.toList text.toList).map String.ofList

def join (mark : String) (pieces : List String) : String :=
  String.ofList (joinList mark.toList (pieces.map String.toList))

def replace (pattern replacement text : String) : String :=
  String.ofList (replaceList pattern.toList replacement.toList text.toList)

def replaceFirst (n : Nat) (pattern replacement text : String) : String :=
  String.ofList (replaceFirstList n pattern.toList replacement.toList text.toList)

def dropEnd (n : Nat) (text : String) : String :=
  String.ofList (text.toList.take (text.length - n))

def repeated (n : Nat) (text : String) : String :=
  String.ofList (List.replicate n text.toList).flatten

def unifyLinesList : List Char → List Char
  | [] => []
  | '\r' :: '\n' :: cs => '\n' :: unifyLinesList cs
  | c :: cs => (if c = '\r' then '\n' else c) :: unifyLinesList cs

def unifyLines (text : String) : String := String.ofList (unifyLinesList text.toList)

def padRight (width : Nat) (text : String) : String :=
  text ++ repeated (width - text.length) " "

/-- A text of digits read in `base`; `none` when it is empty or holds another character. -/
def digits? (base : Nat) (text : List Char) : Option Nat :=
  if text.isEmpty then none
  else
    text.foldl
      (fun acc c => do
        let n ← acc
        let d ←
          if '0' ≤ c ∧ c ≤ '9' then some (c.toNat - '0'.toNat)
          else if 'a' ≤ c ∧ c ≤ 'z' then some (c.toNat - 'a'.toNat + 10)
          else if 'A' ≤ c ∧ c ≤ 'Z' then some (c.toNat - 'A'.toNat + 10)
          else none
        if d < base then some (n * base + d) else none)
      (some 0)

def isDigit (c : Char) : Bool := '0' ≤ c && c ≤ '9'

def isLowerLetter (c : Char) : Bool := 'a' ≤ c && c ≤ 'z'

def isUpperLetter (c : Char) : Bool := 'A' ≤ c && c ≤ 'Z'

def isLetter (c : Char) : Bool := isLowerLetter c || isUpperLetter c

end Codegen.Text
