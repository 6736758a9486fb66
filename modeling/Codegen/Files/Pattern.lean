import Codegen.Text.Basic

/-!
Patterns for the names of files: `*` stands for any text, `?` for one character, `[…]` for one
character of a set and `[!…]` for one outside it. A bracket that is never closed stands for itself.
-/

namespace Codegen.Files

inductive PatternPiece
  | anyText
  | anyChar
  | oneOf (negated : Bool) (ranges : List (Char × Char))
  | exactly (c : Char)
  deriving Repr, DecidableEq

abbrev NamePattern := List PatternPiece

namespace NamePattern

def setRanges : List Char → List (Char × Char)
  | a :: '-' :: b :: cs => if a ≤ b then (a, b) :: setRanges cs else setRanges cs
  | c :: cs => (c, c) :: setRanges cs
  | [] => []

def dropEmptyRanges : List Char → List Char
  | a :: '-' :: b :: cs => if b < a then dropEmptyRanges cs else a :: '-' :: b :: cs
  | cs => cs

/-- The piece for a set. An exclamation mark negates the set also where it comes to stand first
because the ranges before it are empty. -/
def ofSet (set : List Char) : PatternPiece :=
  match set with
  | '!' :: rest => .oneOf true (setRanges rest)
  | _ =>
    match dropEmptyRanges set with
    | '!' :: '-' :: c :: rest => .oneOf true (('-', '-') :: (c, c) :: setRanges rest)
    | '!' :: rest => .oneOf true (setRanges rest)
    | rest => .oneOf false (setRanges rest)

def cutSet? (text : List Char) : Option (List Char × List Char) :=
  match text with
  | '!' :: ']' :: cs => (Text.cutList? [']'] cs).map fun (set, rest) => ('!' :: ']' :: set, rest)
  | ']' :: cs => (Text.cutList? [']'] cs).map fun (set, rest) => (']' :: set, rest)
  | cs => Text.cutList? [']'] cs

theorem length_le_of_cutSet? {text set rest : List Char} (h : cutSet? text = some (set, rest)) :
    rest.length < text.length + 1 := by
  have key : ∀ {t a b : List Char}, Text.cutList? [']'] t = some (a, b) → b.length < t.length :=
    fun h => Text.length_lt_of_cutList? (by simp) h
  unfold cutSet? at h
  split at h
  · simp only [Option.map_eq_some_iff, Prod.exists, Prod.mk.injEq] at h
    obtain ⟨_, _, hcut, _, rfl⟩ := h
    have := key hcut
    simp only [List.length_cons]
    omega
  · simp only [Option.map_eq_some_iff, Prod.exists, Prod.mk.injEq] at h
    obtain ⟨_, _, hcut, _, rfl⟩ := h
    have := key hcut
    simp only [List.length_cons]
    omega
  · have := key h
    omega

def ofList (text : List Char) : NamePattern :=
  match text with
  | [] => []
  | '*' :: cs => .anyText :: ofList cs
  | '?' :: cs => .anyChar :: ofList cs
  | '[' :: cs =>
    match _h : cutSet? cs with
    | none => .exactly '[' :: ofList cs
    | some (set, rest) => ofSet set :: ofList rest
  | c :: cs => .exactly c :: ofList cs
termination_by text.length
decreasing_by
  all_goals simp only [List.length_cons]
  all_goals first
    | omega
    | exact length_le_of_cutSet? ‹_›

def ofString (text : String) : NamePattern := ofList text.toList

def matchesList : NamePattern → List Char → Bool
  | [], text => text.isEmpty
  | .anyText :: pieces, [] => matchesList pieces []
  | .anyText :: pieces, c :: cs =>
    matchesList pieces (c :: cs) || matchesList (.anyText :: pieces) cs
  | _ :: _, [] => false
  | .anyChar :: pieces, _ :: cs => matchesList pieces cs
  | .oneOf negated ranges :: pieces, c :: cs =>
    (ranges.any fun (a, b) => a ≤ c && c ≤ b) != negated && matchesList pieces cs
  | .exactly d :: pieces, c :: cs => c == d && matchesList pieces cs
termination_by pattern text => pattern.length + text.length

def fits (pattern : NamePattern) (name : String) : Bool := matchesList pattern name.toList

def isPattern (text : String) : Bool := text.toList.any fun c => c = '*' || c = '?' || c = '['

end NamePattern

end Codegen.Files
