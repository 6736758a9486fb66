import Codegen.Text.Basic

/-!
How alike two words are: the share of the letters that they have in common, counted from the longest
common run outwards. A word that nobody knows is answered with those that come near.
-/

namespace Codegen.CommandLine

def commonStart : List Char → List Char → Nat
  | a :: as, b :: bs => if a = b then commonStart as bs + 1 else 0
  | _, _ => 0

/-- A run that two texts share: where it begins in each, and its length. -/
structure CommonRun where
  left : Nat
  right : Nat
  length : Nat
  deriving Repr, DecidableEq, Inhabited

def longestRun (a b : List Char) : CommonRun :=
  let runs := (List.range a.length).flatMap fun i =>
    (List.range b.length).map fun j => ⟨i, j, commonStart (a.drop i) (b.drop j)⟩
  runs.foldl (fun best run => if best.length < run.length then run else best) ⟨0, 0, 0⟩

/-- Number of letters in common: those of the longest run and those on either side of it. -/
def lettersInCommon : (fuel : Nat) → List Char → List Char → Nat
  | 0, _, _ => 0
  | fuel + 1, a, b =>
    let run := longestRun a b
    if run.length = 0 then 0
    else
      lettersInCommon fuel (a.take run.left) (b.take run.right) + run.length
        + lettersInCommon fuel (a.drop (run.left + run.length)) (b.drop (run.right + run.length))

def similarity (candidate word : String) : Nat × Nat :=
  (2 * lettersInCommon (candidate.length + 1) candidate.toList word.toList,
   candidate.length + word.length)

def isNear (candidate word : String) : Bool :=
  let (shared, all) := similarity candidate word
  0 < all && 3 * all ≤ 5 * shared

def offerLimit : Nat := 3

def nearest (word : String) (candidates : List String) : List String :=
  let isBefore (x y : String) : Bool :=
    let (shared, all) := similarity x word
    let (shared', all') := similarity y word
    shared' * all < shared * all' || (shared' * all = shared * all' && y ≤ x)
  ((candidates.filter (isNear · word)).mergeSort isBefore).take offerLimit

end Codegen.CommandLine
