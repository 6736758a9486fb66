import Codegen.Settings.Environment
import Codegen.Text.Blank

/-!
Files that set variables of the environment, one on a line: `NAME=value`, with `export` in front or
not, the value bare or quoted. A line that does not have this form is passed over.
-/

namespace Codegen.Settings.EnvironmentFile

abbrev Binding := String × Option String

def isGap (c : Char) : Bool := Text.isBlank c && c ≠ '\n' && c ≠ '\r'

def isNameChar (c : Char) : Bool := c ≠ '=' && c ≠ '#' && !Text.isBlank c

/-- The text up to a closing quote, and what follows it. Two backslashes stay together, and a quote
behind a backslash closes the text only when no other does. -/
def quotedBody (quote : Char) (text : List Char) : Option (List Char × List Char) :=
  match text with
  | [] => none
  | '\\' :: c :: cs =>
    if c = quote then
      match quotedBody quote cs with
      | some (body, rest) => some ('\\' :: c :: body, rest)
      | none => some (['\\'], cs)
    else if c = '\\' then (quotedBody quote cs).map fun (body, rest) => ('\\' :: c :: body, rest)
    else (quotedBody quote (c :: cs)).map fun (body, rest) => ('\\' :: body, rest)
  | c :: cs =>
    if c = quote then some ([], cs)
    else (quotedBody quote cs).map fun (body, rest) => (c :: body, rest)
termination_by text.length
decreasing_by all_goals simp only [List.length_cons]; omega

/-- Works out the escapes of a quoted value; `escapes` gives the characters that they stand for. -/
def unescape (escapes : List (Char × Char)) : List Char → List Char
  | [] => []
  | [c] => [c]
  | c :: d :: rest =>
    match if c = '\\' then escapes.lookup d else none with
    | some e => e :: unescape escapes rest
    | none => c :: unescape escapes (d :: rest)
termination_by text => text.length

def singleQuoteEscapes : List (Char × Char) := [('\\', '\\'), ('\'', '\'')]

def doubleQuoteEscapes : List (Char × Char) :=
  singleQuoteEscapes ++
    [('"', '"'), ('a', '\x07'), ('b', '\x08'), ('f', '\x0c'), ('n', '\n'), ('r', '\r'), ('t', '\t'),
     ('v', '\x0b')]

def dropComment : List Char → List Char
  | [] => []
  | c :: cs =>
    if Text.isBlank c ∧ (cs.dropWhile Text.isBlank).head? = some '#' then [] else c :: dropComment cs

/-- The name at the head of a line; a comment has none. Where a line breaks off, this and the
readers below answer the rest from there. -/
def readName (text : List Char) : Except (List Char) (Option String × List Char) :=
  match text with
  | '#' :: _ => .ok (none, text)
  | '\'' :: cs =>
    let name := cs.takeWhile (· ≠ '\'')
    match cs.drop name.length with
    | _ :: rest => if name.isEmpty then .error text else .ok (some (String.ofList name), rest)
    | [] => .error text
  | _ =>
    let name := text.takeWhile isNameChar
    if name.isEmpty then .error text
    else .ok (some (String.ofList name), text.drop name.length)

def readValue (text : List Char) : Except (List Char) (Option String × List Char) :=
  let quoted (quote : Char) (escapes : List (Char × Char)) (text cs : List Char) :
      Except (List Char) (Option String × List Char) :=
    match quotedBody quote cs with
    | some (body, rest) => .ok (some (String.ofList (unescape escapes body)), rest)
    | none => .error text
  let bare (text : List Char) : Except (List Char) (Option String × List Char) :=
    let line := text.takeWhile (· ≠ '\n')
    .ok (some (String.ofList (Text.stripRight (dropComment line))), text.drop line.length)
  match text with
  | '=' :: cs =>
    let text := cs.dropWhile isGap
    match text with
    | '\'' :: cs => quoted '\'' singleQuoteEscapes text cs
    | '"' :: cs => quoted '"' doubleQuoteEscapes text cs
    | '#' :: _ =>
      if text.length < cs.length then .ok (some "", text) else bare text
    | _ => bare text
  | _ => .ok (none, text)

def readLineEnd (text : List Char) : Except (List Char) (List Char) :=
  let text := match text.dropWhile isGap with
    | '#' :: cs => cs.dropWhile (· ≠ '\n')
    | _ => text
  match text.dropWhile isGap with
  | [] => .ok []
  | '\n' :: rest => .ok rest
  | _ => .error text

/-- The text behind the word `export`. -/
def dropExport (text : List Char) : List Char :=
  match Text.dropStart? "export".toList text with
  | some (c :: cs) => if isGap c then cs.dropWhile isGap else text
  | _ => text

def readLine (text : List Char) : Except (List Char) (Option Binding × List Char) :=
  match text.dropWhile Text.isBlank with
  | [] => .ok (none, [])
  | text => do
    let (name?, text) ← readName (dropExport text)
    let (value, text) ← readValue (text.dropWhile isGap)
    let text ← readLineEnd text
    return (name?.map (·, value), text)

def bindings : (fuel : Nat) → List Char → List Binding
  | 0, _ | _, [] => []
  | fuel + 1, text =>
    match readLine text with
    | .ok (binding?, rest) => binding?.toList ++ bindings fuel rest
    | .error rest => bindings fuel ((rest.dropWhile (· ≠ '\n')).drop 1)

/-- Replaces the references in a value: `${NAME}` and `${NAME:-otherwise}`. What is not known is
empty, and so is a name without a value. -/
def interpolate (known : List Binding) : (fuel : Nat) → List Char → List Char
  | 0, text => text
  | _ + 1, [] => []
  | fuel + 1, '$' :: '\x7b' :: cs =>
    let name := cs.takeWhile fun c => c ≠ '\x7d' ∧ c ≠ ':'
    let value (otherwise : List Char) : List Char :=
      match known.lookup (String.ofList name) with
      | some value => (value.getD "").toList
      | none => otherwise
    match cs.drop name.length with
    | '\x7d' :: rest => value [] ++ interpolate known fuel rest
    | ':' :: '-' :: rest =>
      let otherwise := rest.takeWhile (· ≠ '\x7d')
      match rest.drop otherwise.length with
      | _ :: rest => value otherwise ++ interpolate known fuel rest
      | [] => '$' :: interpolate known fuel ('\x7b' :: cs)
    | _ => '$' :: interpolate known fuel ('\x7b' :: cs)
  | fuel + 1, c :: cs => c :: interpolate known fuel cs

/-- The values of bindings. A reference in one sees the environment, and beyond it the bindings
before. -/
def values (environment : Environment) (given : List Binding) : List Binding :=
  given.foldl
    (fun done (name, value) =>
      let known := environment.map (fun (name, value) => (name, some value)) ++ done
      let resolved := value.map fun text =>
        String.ofList (interpolate known (text.length + 1) text.toList)
      Table.put name resolved done)
    []

/-- Sets variables unless they are there already. The first one that an environment cannot hold ends
this and is answered. -/
def assign (environment : Environment) : List Binding → Environment × Option VariableFault
  | [] => (environment, none)
  | (_, none) :: rest => assign environment rest
  | (name, some value) :: rest =>
    if (environment.lookup name).isSome then assign environment rest
    else
      match variableFault? name value with
      | some fault => (environment, some fault)
      | none => assign (environment ++ [(name, value)]) rest

def load (environment : Environment) (text : String) : Environment × Option VariableFault :=
  assign environment (values environment (bindings (text.length + 1) text.toList))

end Codegen.Settings.EnvironmentFile
