import Codegen.Console.EmojiTable
import Codegen.Text.Blank
import Codegen.Text.Case

/-!
Emoji by their short names between colons, as in `:rocket:`. Behind a name, `-text` or `-emoji` asks
for the plain or for the coloured form.
-/

namespace Codegen.Console.Emoji

def find? (name : String) : List String → Option String
  | key :: glyph :: rest => if key = name then some glyph else find? name rest
  | _ => none

def ofName? (name : String) : Option String :=
  emojiRows.findSome? fun row => find? name (Text.split " " row)

def forms : List (List Char × List Char) :=
  [("-emoji".toList, ['\ufe0f']), ("-text".toList, ['\ufe0e'])]

def split (text : List Char) : List Char × List Char :=
  let found := forms.findSome? fun (ending, selector) =>
    (Text.dropStart? ending.reverse text.reverse).map fun name => (name.reverse, selector)
  found.getD (text, [])

def shown (text : List Char) : List Char :=
  let (name, selector) := split text
  match ofName? (Text.lower (String.ofList name)) with
  | some glyph => glyph.toList ++ selector
  | none => ':' :: text ++ [':']

def replace (text : List Char) : List Char :=
  match text with
  | [] => []
  | c :: rest =>
    if c = ':' then
      let inside := rest.takeWhile fun c => c ≠ ':' && !Text.isBlank c
      match _h : rest.drop inside.length with
      | ':' :: after => shown inside ++ replace after
      | _ => c :: replace rest
    else c :: replace rest
termination_by text.length
decreasing_by
  · have hlength := congrArg List.length ‹_›
    simp only [List.length_drop, List.length_cons] at hlength ⊢
    omega
  all_goals simp

end Codegen.Console.Emoji
