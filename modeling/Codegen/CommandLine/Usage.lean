import Codegen.CommandLine.Similarity
import Codegen.Text.Quoted

/-!
Commands, the options that they take, and the ways in which they can be called wrongly.
-/

namespace Codegen.CommandLine

inductive Expectation
  | anything
  | existingFile
  | directory
  deriving Repr, DecidableEq, Inhabited

/-- An option of a command. The first of its names is the one it goes by. -/
structure OptionSpec where
  names : List String
  takesValue : Bool := false
  expectation : Expectation := .anything
  deriving Repr, DecidableEq, Inhabited

namespace OptionSpec

def name (spec : OptionSpec) : String := spec.names.headD ""

def hint (spec : OptionSpec) : String := Text.join " / " (spec.names.map fun n => s!"'{n}'")

end OptionSpec

structure Command where
  /-- The words that call the command. -/
  call : String
  /-- What may follow these words. -/
  synopsis : String
  /-- The help text below the line that tells the usage. -/
  description : String
  options : List OptionSpec
  operand : Option String := none
  /-- Whether options may stand behind other words. -/
  isInterspersed : Bool := true

inductive UsageFault
  | unknownOption (name : String) (offers : List String)
  | valueMissing (name : String)
  | valueUnexpected (name : String)
  | operandMissing (name : String)
  | badValue (hint text : String)
  | extraWords (words : List String)
  | commandMissing
  | unknownCommand (name : String)
  deriving Repr, DecidableEq, Inhabited

namespace UsageFault

def offer : List String → String
  | [] => ""
  | [one] => s!" Did you mean {Text.quoted one}?"
  | several =>
    let names := (several.mergeSort (· ≤ ·)).map Text.quoted
    " (Did you mean one of: " ++ Text.join ", " names ++ "?)"

def message : UsageFault → String
  | unknownOption name offers => s!"No such option {Text.quoted name}." ++ offer offers
  | valueMissing name => s!"Option {Text.quoted name} requires an argument."
  | valueUnexpected name => s!"Option {Text.quoted name} does not take a value."
  | operandMissing name => s!"Missing argument '{name}'."
  | badValue hint text => s!"Invalid value for {hint}: {text}"
  | extraWords words =>
    let noun := if words.length = 1 then "argument" else "arguments"
    s!"Got unexpected extra {noun} (" ++ Text.join " " words ++ ")"
  | commandMissing => "Missing command."
  | unknownCommand name => s!"No such command {Text.quoted name}."

def tellsUsage : UsageFault → Bool
  | valueMissing _ | valueUnexpected _ => false
  | _ => true

end UsageFault

namespace Command

def usage (command : Command) : String := s!"Usage: {command.call} {command.synopsis}"

def help (command : Command) : String := command.usage ++ "\n\n" ++ command.description

def complaint (command : Command) (fault : UsageFault) : String :=
  let usage :=
    if fault.tellsUsage then
      command.usage ++ s!"\nTry '{command.call} --help' for help.\n\n"
    else ""
  usage ++ s!"Error: {fault.message}\n"

end Command

end Codegen.CommandLine
