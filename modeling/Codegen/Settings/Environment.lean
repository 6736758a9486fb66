import Codegen.Table
import Codegen.Text.Basic

/-!
The variables of the environment, and texts that refer to them: `${NAME}`, `${NAME:-otherwise}` and
`$NAME`.
-/

namespace Codegen.Settings

abbrev Environment := List (String × String)

inductive VariableFault
  | nullCharacter
  | illegalName
  deriving Repr, DecidableEq, Inhabited

def VariableFault.message : VariableFault → String
  | nullCharacter => "embedded null byte"
  | illegalName => "illegal environment variable name"

def variableFault? (name value : String) : Option VariableFault :=
  if name.contains '\x00' || value.contains '\x00' then some .nullCharacter
  else if name.contains '=' then some .illegalName
  else none

structure Reference where
  name : List Char
  otherwise : Option (List Char)
  /-- The reference as it is written. -/
  written : List Char
  deriving Repr, DecidableEq

namespace Reference

/-- What stands behind `:-`, up to the closing brace on the same line. -/
def otherwise? (text : List Char) : Option (List Char × List Char) :=
  let default := text.takeWhile fun c => c ≠ '\x7d' ∧ c ≠ '\n'
  match text.drop default.length with
  | '\x7d' :: rest => some (default, rest)
  | _ => none

def braced? (text : List Char) : Option (Reference × List Char) :=
  let name := text.takeWhile fun c => c ≠ '\x7d' ∧ c ≠ ':'
  if name.isEmpty then none
  else
    match text.drop name.length with
    | '\x7d' :: rest => some (⟨name, none, "$\x7b".toList ++ name ++ ['\x7d']⟩, rest)
    | ':' :: '-' :: rest => do
      let (default, rest) ← otherwise? rest
      let written := "$\x7b".toList ++ name ++ [':', '-'] ++ default ++ ['\x7d']
      return (⟨name, some default, written⟩, rest)
    | _ => none

def isNameStart (c : Char) : Bool := Text.isLetter c || c = '_'

def isNamePart (c : Char) : Bool := isNameStart c || Text.isDigit c

def ofText? (text : List Char) : Option (Reference × List Char) :=
  match text with
  | '\x7b' :: rest => braced? rest
  | c :: rest =>
    if isNameStart c then
      let name := c :: rest.takeWhile isNamePart
      some (⟨name, none, '$' :: name⟩, rest.dropWhile isNamePart)
    else none
  | [] => none

/-- The value of the variable, or else what the reference gives instead; a reference to a variable
that is not there stays as it is. -/
def value (environment : Environment) (r : Reference) : List Char :=
  match environment.lookup (String.ofList r.name) with
  | some value => value.toList
  | none => r.otherwise.getD r.written

def isUnknown (environment : Environment) (r : Reference) : Bool :=
  (environment.lookup (String.ofList r.name)).isNone && r.otherwise.isNone

end Reference

inductive Piece
  | plain (c : Char)
  | reference (r : Reference)

def pieces : (fuel : Nat) → List Char → List Piece
  | 0, text => text.map .plain
  | _ + 1, [] => []
  | fuel + 1, c :: rest =>
    match if c = '$' then Reference.ofText? rest else none with
    | some (reference, rest) => .reference reference :: pieces fuel rest
    | none => .plain c :: pieces fuel rest

def piecesOf (text : String) : List Piece := pieces (text.length + 1) text.toList

def expand (environment : Environment) (text : String) : String :=
  String.ofList <| (piecesOf text).flatMap fun
    | .plain c => [c]
    | .reference r => r.value environment

def unknownNames (environment : Environment) (text : String) : List String :=
  (piecesOf text).filterMap fun
    | .plain _ => none
    | .reference r => if r.isUnknown environment then some (String.ofList r.name) else none

end Codegen.Settings
