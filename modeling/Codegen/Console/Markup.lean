import Codegen.Console.Emoji
import Codegen.Console.Style
import Codegen.Console.WidthTable

/-!
Texts with marks of style in brackets, such as `[bold]…[/bold]`, and how they read on a terminal
that shows no styles. A backslash in front of a mark makes it plain text, and a name between colons
is an emoji.
-/

namespace Codegen.Console

/-- A mark of style; one whose name begins with a slash ends another. -/
structure Mark where
  name : List Char
  parameters : Option (List Char)
  deriving Repr, DecidableEq

/-- A part of a text: what is shown, or a mark and where it stands. -/
inductive Piece
  | plain (text : List Char)
  | mark (position : Nat) (m : Mark)
  deriving Repr, DecidableEq

inductive MarkupFault
  | unopened (mark : String) (position : Nat)
  | nothingOpen (position : Nat)
  deriving Repr, DecidableEq, Inhabited

def MarkupFault.message : MarkupFault → String
  | unopened mark position =>
    s!"closing tag '{mark}' at position {position} doesn't match any open tag"
  | nothingOpen position => s!"closing tag '[/]' at position {position} has nothing to close"

namespace Mark

def ofList (inside : List Char) : Mark :=
  match Text.cutList? ['='] inside with
  | some (name, parameters) => ⟨name, some parameters⟩
  | none => ⟨inside, none⟩

def written (m : Mark) : String :=
  let parameters := match m.parameters with
    | some parameters => '=' :: parameters
    | none => []
  "[" ++ String.ofList (m.name ++ parameters) ++ "]"

def style (name : List Char) : String := Style.normalForm (String.ofList name)

def isStart (c : Char) : Bool := Text.isLowerLetter c || c = '#' || c = '/' || c = '@'

def inside? : List Char → Option (List Char × List Char)
  | [] => none
  | c :: rest =>
    let body := rest.takeWhile fun c => c ≠ '[' ∧ c ≠ ']'
    match rest.drop body.length with
    | ']' :: after => if isStart c then some (c :: body, after) else none
    | _ => none

theorem length_le_of_inside? {text inside after : List Char} (h : inside? text = some (inside, after)) :
    after.length ≤ text.length := by
  cases text with
  | nil => simp [inside?] at h
  | cons c rest =>
    simp only [inside?] at h
    split at h
    · next heq =>
      split at h
      · obtain ⟨-, rfl⟩ := by simpa using h
        have := congrArg List.length heq
        simp only [List.length_drop, List.length_cons] at this ⊢
        omega
      · simp at h
    · simp at h

end Mark

namespace Markup

def chunk (text : List Char) : List Piece := if text.isEmpty then [] else [.plain text]

/-- Cuts a text that starts at a position into its pieces; `run` holds, reversed, what stands before
it since the last mark. Of the backslashes in front of a mark every two stand for one, and a single
one takes the mark's meaning away. -/
def pieces (position : Nat) (run text : List Char) : List Piece :=
  let slashes := text.takeWhile (· = '\\')
  match _h : text.drop slashes.length with
  | [] => chunk (run.reverse ++ slashes)
  | c :: rest =>
    let found := if c = '[' then Mark.inside? rest else none
    match _hi : found with
    | some (inside, after) =>
      let half := slashes.length / 2
      let next := position + slashes.length + inside.length + 2
      let piece :=
        if slashes.length % 2 = 0 then .mark (position + 2 * half) (Mark.ofList inside)
        else .plain ('[' :: (inside ++ [']']))
      chunk run.reverse ++ chunk (List.replicate half '\\') ++ piece :: pieces next [] after
    | none => pieces (position + slashes.length + 1) (c :: (slashes ++ run)) rest
termination_by text.length
decreasing_by
  all_goals
    have hlength := congrArg List.length ‹text.drop _ = _›
    simp only [List.length_drop, List.length_cons] at hlength
  · have hfound : Mark.inside? rest = some (inside, after) := by
      have hi := ‹found = _›
      simp only [found] at hi
      split at hi
      · exact hi
      · simp at hi
    have := Mark.length_le_of_inside? hfound
    omega
  · omega

def close (opened : List String) (position : Nat) (m : Mark) :
    Except MarkupFault (List String) :=
  let style := Text.stripList (m.name.drop 1)
  if style.isEmpty then
    match opened with
    | [] => .error (.nothingOpen position)
    | _ :: rest => .ok rest
  else if opened.contains (Mark.style style) then .ok (opened.erase (Mark.style style))
  else .error (.unopened m.written position)

def traverse (show? : List Char → List Char) (opened : List String) :
    List Piece → Except MarkupFault (List Char)
  | [] => .ok []
  | .plain text :: rest => (traverse show? opened rest).map (show? text ++ ·)
  | .mark position m :: rest =>
    if m.name.head? = some '/' then do traverse show? (← close opened position m) rest
    else traverse show? (Mark.style m.name :: opened) rest

/-- What is shown of a text between marks: a bracket behind a backslash, and emoji by their
names. -/
def shown (text : List Char) : List Char :=
  Emoji.replace (Text.replaceList ['\\', '['] ['['] text)

def isControl (c : Char) : Bool := ['\x07', '\x08', '\x0b', '\x0c', '\x0d'].contains c

def tabWidth : Nat := 8

def columns (c : Char) : Nat :=
  if Text.inRanges zeroWidthRanges c then 0 else if Text.inRanges doubleWidthRanges c then 2 else 1

def expandTabs (column : Nat) : List Char → List Char
  | [] => []
  | c :: rest =>
    if c = '\t' then
      let blanks := tabWidth - column % tabWidth
      List.replicate blanks ' ' ++ expandTabs (column + blanks) rest
    else c :: expandTabs (if c = '\n' then 0 else column + columns c) rest

end Markup

def plain (text : String) : Except MarkupFault String :=
  (Markup.traverse Markup.shown [] (Markup.pieces 0 [] text.toList)).map fun shown =>
    String.ofList (Markup.expandTabs 0 (shown.filter fun c => !Markup.isControl c))

def fault? (text : String) : Option MarkupFault :=
  match Markup.traverse (fun _ => []) [] (Markup.pieces 0 [] text.toList) with
  | .ok _ => none
  | .error fault => some fault

end Codegen.Console
