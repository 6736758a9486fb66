import Codegen.CommandLine.Usage
import Codegen.Workspace.Basic

/-!
The words that a command is called with, taken apart into options with their values and other words.
-/

namespace Codegen.CommandLine

/-- The options that are given, each under the name it goes by and with its value, and the other
words. -/
structure Invocation where
  given : List (String × Option String) := []
  words : List String := []
  deriving Repr, DecidableEq, Inhabited

namespace Invocation

def value? (invocation : Invocation) (name : String) : Option String :=
  (invocation.given.reverse.lookup name).join

def has (invocation : Invocation) (name : String) : Bool := invocation.given.any (·.1 = name)

def names (invocation : Invocation) : List String := (invocation.given.map (·.1)).eraseDups

def give (invocation : Invocation) (spec : OptionSpec) (value : Option String) : Invocation :=
  { invocation with given := invocation.given ++ [(spec.name, value)] }

end Invocation

namespace Command

def find? (command : Command) (name : String) : Option OptionSpec :=
  command.options.find? (·.names.contains name)

def longNames (command : Command) : List String :=
  (command.options.flatMap (·.names)).filter (Text.hasStart "--" ·)

/-- What is left of a word when an option has been read, and whether the word behind it was its
value. -/
abbrev Reading := Invocation × Bool

def readValue (spec : OptionSpec) (name : String) (attached next : Option String)
    (invocation : Invocation) : Except UsageFault Reading :=
  match attached, next with
  | some value, _ => .ok (invocation.give spec (some value), false)
  | none, some value => .ok (invocation.give spec (some value), true)
  | none, none => .error (.valueMissing name)

def readLetters (command : Command) (next : Option String) :
    List Char → Invocation → Except UsageFault Reading
  | [], invocation => .ok (invocation, false)
  | c :: rest, invocation =>
    let name := String.ofList ['-', c]
    match command.find? name with
    | none => .error (.unknownOption name [])
    | some spec =>
      if spec.takesValue then
        let attached := if rest.isEmpty then none else some (String.ofList rest)
        readValue spec name attached next invocation
      else readLetters command next rest (invocation.give spec none)

def readOption (command : Command) (word : String) (next : Option String)
    (invocation : Invocation) : Except UsageFault Reading :=
  let (name, attached) := match Text.cut? "=" word with
    | some (name, value) => (name, some value)
    | none => (word, none)
  match if Text.hasStart "--" name then command.find? name else none with
  | some spec =>
    if spec.takesValue then readValue spec name attached next invocation
    else if attached.isSome then .error (.valueUnexpected name)
    else .ok (invocation.give spec none, false)
  | none =>
    if Text.hasStart "--" word then .error (.unknownOption name (nearest name command.longNames))
    else readLetters command next (word.toList.drop 1) invocation

def parse (command : Command) (invocation : Invocation) :
    List String → Except UsageFault Invocation
  | [] => .ok invocation
  | word :: rest =>
    if word = "--" then .ok { invocation with words := invocation.words ++ rest }
    else if Text.hasStart "-" word && word ≠ "-" then
      match command.readOption word rest.head? invocation with
      | .error fault => .error fault
      | .ok (invocation, tookNext) =>
        if tookNext then parse command invocation (rest.drop 1) else parse command invocation rest
    else if command.isInterspersed then
      parse command { invocation with words := invocation.words ++ [word] } rest
    else .ok { invocation with words := invocation.words ++ word :: rest }
termination_by words => words.length
decreasing_by all_goals simp only [List.length_drop, List.length_cons]; omega

def namesDirectory (path : String) : Bool :=
  Text.hasEnd "/" path || Text.hasEnd "/." path || path = "."

def target? (w : Workspace) (path : String) : Option (Files.Entry Content) :=
  match w.tree.stat? w.directory (.ofString path) with
  | .ok (some .directory) => if path = "" then none else some .directory
  | .ok found => if path = "" || namesDirectory path then none else found
  | .error _ => none

def objection? (w : Workspace) (value : String) : Expectation → Option String
  | .anything => none
  | .existingFile =>
    match target? w value with
    | none => some s!"File {Text.quoted value} does not exist."
    | some .directory => some s!"File {Text.quoted value} is a directory."
    | some _ => none
  | .directory =>
    match target? w value with
    | some (.file _) => some s!"Directory {Text.quoted value} is a file."
    | _ => none

def checkOption (w : Workspace) (command : Command) (invocation : Invocation) (name : String) :
    Except UsageFault Unit :=
  match command.find? name with
  | none => .ok ()
  | some spec =>
    match (invocation.value? name).bind (objection? w · spec.expectation) with
    | some text => .error (.badValue spec.hint text)
    | none => .ok ()

/-- Checks the values of a call, its options in the order in which they are given and the operand
last. Answers the operand, if the command takes one. -/
def check (w : Workspace) (command : Command) (invocation : Invocation) :
    Except UsageFault (Option String) := do
  invocation.names.forM (checkOption w command invocation)
  match command.operand, invocation.words with
  | some name, [] => .error (.operandMissing name)
  | some name, word :: extra =>
    match objection? w word .existingFile with
    | some text => .error (.badValue s!"'{name}'" text)
    | none => if extra.isEmpty then .ok (some word) else .error (.extraWords extra)
  | none, [] => .ok none
  | none, extra => .error (.extraWords extra)

end Command

end Codegen.CommandLine
