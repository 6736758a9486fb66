import Codegen.Model.Basic
import Codegen.Text.Naming

/-!
What most templates derive from a model: names usable in code, dotted paths, and comments broken
into lines.
-/

namespace Codegen.Model

def defaultMark : String := "_"

def defaultCommentWidth : Int := 80

def defaultLineBreak : String := "<p>"

/-- The name of an attribute in generated code: hidden and read-only ones carry the mark. -/
def identifierName (mark : String) (a : Attribute) : String :=
  if a.isReadOnly || !a.isPublic then mark ++ a.name else a.name

def pathToIdentifier (path delimiter target : String) : String :=
  Text.replace delimiter target path

/-- A word of a comment, with its line ends written as `lineBreak`. -/
def commentWord (lineBreak word : String) : String :=
  Text.replace "\n" lineBreak (Text.replace "\r\n" "\n" word)

/-- The words of a comment: its pieces between single spaces that are not empty. -/
def commentWords (lineBreak text : String) : List String :=
  ((Text.split " " text).filter (· ≠ "")).map (commentWord lineBreak)

/-- Distributes words over lines: a word goes on the current line while the line stays within
`width`. `line` holds the words of the current line and `length` its length. -/
def fillLines (width : Int) (line : List String) (length : Nat) :
    List String → List (List String)
  | [] => if line.isEmpty then [] else [line]
  | word :: words =>
    if line.isEmpty then fillLines width [word] word.length words
    else
      let needed := length + 1 + word.length
      if width < needed then line :: fillLines width [word] word.length words
      else fillLines width (line ++ [word]) needed words

/-- A comment as lines no longer than `width`, save lines of one longer word. -/
def reflowComment (text : Option String) (width : Int := defaultCommentWidth)
    (lineBreak : String := defaultLineBreak) : List String :=
  if hasComment text then
    (fillLines width [] 0 (commentWords lineBreak (text.getD ""))).map (Text.join " ")
  else []

def Class.moduleName (c : Class) : String := Text.moduleName c.name

end Codegen.Model
