import Codegen.CommandLine.Generate

/-!
The program as a whole: which command the words of a call lead to, and how the call ends.
-/

namespace Codegen.CommandLine

open Codegen.Files

def versionText : String := "mdagen, version 0.3.0"

def helpOption : OptionSpec := { names := ["--help"] }

def versionOption : OptionSpec := { names := ["--version"] }

/-- The program itself; the word that follows names one of its commands. -/
def programCommand : Command where
  call := "mdagen"
  synopsis := "[OPTIONS] COMMAND [ARGS]..."
  description :=
    "  mdagen - model-driven code generator.\n\n"
    ++ "  Generates source trees from a platform-independent model by running the\n"
    ++ "  scripts and templates a platform provides for each class stereotype.\n\n"
    ++ "  Examples:\n\n"
    ++ "    mdagen generate shop.yml                 Generate with the default platform\n"
    ++ "    mdagen generate shop.yml -p ./platform   Generate with a custom platform\n"
    ++ "    mdagen platforms                         List bundled platforms\n\n"
    ++ "Options:\n"
    ++ "  --version  Show the version and exit.\n"
    ++ "  --help     Show this message and exit.\n\n"
    ++ "Commands:\n"
    ++ "  generate   Generate code for MODEL_FILE.\n"
    ++ "  platforms  List the platforms bundled with mdagen."
  options := [versionOption, helpOption]
  isInterspersed := false

def generateCommand : Command where
  call := "mdagen generate"
  synopsis := "[OPTIONS] MODEL_FILE"
  description :=
    "  Generate code for MODEL_FILE.\n\n"
    ++ "  Settings come from the ``generation`` section of mdagen.yml; options given on\n"
    ++ "  the command line take precedence.\n\n"
    ++ "  Examples:\n\n"
    ++ "    $ mdagen generate shop.yml\n"
    ++ "    $ mdagen generate shop.yml --platform ./platforms/java --output ./src/gen\n"
    ++ "    $ mdagen generate shop.yml --config ci/mdagen.yml --quiet\n\n"
    ++ "Options:\n"
    ++ "  -p, --platform TEXT       Platform name or directory (default: python)\n"
    ++ "  --platform-dir DIRECTORY  Explicit platform directory (overrides --platform)\n"
    ++ "  -o, --output TEXT         Output root directory (default: ./gen)\n"
    ++ "  --config FILE             Configuration file (default: ./mdagen.yml)\n"
    ++ "  -v, --verbose             Show debug logging\n"
    ++ "  -q, --quiet               Only report errors\n"
    ++ "  --help                    Show this message and exit."
  options :=
    [{ names := ["--platform", "-p"], takesValue := true },
     { names := ["--platform-dir"], takesValue := true, expectation := .directory },
     { names := ["--output", "-o"], takesValue := true },
     { names := ["--config"], takesValue := true, expectation := .existingFile },
     { names := ["--verbose", "-v"] },
     { names := ["--quiet", "-q"] },
     helpOption]
  operand := some "MODEL_FILE"

def platformsCommand : Command where
  call := "mdagen platforms"
  synopsis := "[OPTIONS]"
  description :=
    "  List the platforms bundled with mdagen.\n\n"
    ++ "Options:\n"
    ++ "  --help  Show this message and exit."
  options := [helpOption]

/-- How a call ends: its status, what it shows and what it complains of. -/
structure Ending where
  status : Nat := 0
  shown : String := ""
  complaint : String := ""
  deriving Repr, DecidableEq, Inhabited

namespace Ending

def misused (command : Command) (fault : UsageFault) : Ending :=
  { status := 2, complaint := command.complaint fault }

def failed (shown : String) : Failure → Ending
  | .fault f =>
    if f.isOf "KeyboardInterrupt" || f.isOf "EOFError" then
      { status := 1, shown, complaint := "\nAborted!\n" }
    else { status := 1, shown, complaint := s!"Error: {(Failure.fault f).text}\n" }
  | failure => { status := 1, shown, complaint := s!"Error: {failure.text}\n" }

end Ending

def Command.information? (command : Command) (invocation : Invocation) : Option String :=
  invocation.names.findSome? fun name =>
    if name = helpOption.name then some command.help
    else if name = versionOption.name then some versionText
    else none

def Command.dispatch (command : Command) (words : List String)
    (next : Invocation → Settings.Session → Ending × Settings.Session)
    (session : Settings.Session) : Ending × Settings.Session :=
  match command.parse {} words with
  | .error fault => (.misused command fault, session)
  | .ok invocation =>
    match command.information? invocation with
    | some text => ({ shown := text ++ "\n" }, session)
    | none => next invocation session

/-- Goes through the steps of a command; one that answers false ends the call without success. -/
def Working.finish (working : Working Bool) (session : Settings.Session) : Ending × Settings.Session :=
  let (outcome, terminal) := working.run { session }
  match outcome with
  | .ok succeeded =>
    ({ status := if succeeded then 0 else 1, shown := terminal.shown }, terminal.session)
  | .error failure => (.failed terminal.shown failure, terminal.session)

def Command.carryOut (command : Command) (work : Invocation → Option String → Working Bool)
    (invocation : Invocation) (session : Settings.Session) : Ending × Settings.Session :=
  match command.check session.workspace invocation with
  | .error fault => (.misused command fault, session)
  | .ok operand => (work invocation operand).finish session

def Request.ofInvocation (invocation : Invocation) (model : String) : Request :=
  { model
    platform := invocation.value? "--platform"
    platformDirectory := invocation.value? "--platform-dir"
    output := invocation.value? "--output"
    configuration := invocation.value? "--config"
    isVerbose := invocation.has "--verbose"
    isQuiet := invocation.has "--quiet" }

def commands (home : Place) :
    List (String × Command × (Invocation → Option String → Working Bool)) :=
  [("generate", generateCommand, fun invocation operand =>
      generate home (.ofInvocation invocation (operand.getD ""))),
   ("platforms", platformsCommand, fun _ _ => do
      listPlatforms home
      return true)]

def runCommand (home : Place) (words : List String) (session : Settings.Session) :
    Ending × Settings.Session :=
  match words with
  | [] => (.misused programCommand .commandMissing, session)
  | name :: rest =>
    match (commands home).lookup name with
    | some (command, work) => command.dispatch rest (command.carryOut work) session
    | none =>
      let unknown := UsageFault.unknownCommand name
      programCommand.dispatch words (fun _ session => (.misused programCommand unknown, session))
        session

/-- Runs the program with the words of a call. The levels of loggers begin anew. -/
def run (home : Place) (words : List String) (session : Settings.Session) :
    Ending × Settings.Session :=
  let session := { session with levels := {} }
  if words.isEmpty then ({ status := 2, complaint := programCommand.help ++ "\n" }, session)
  else
    programCommand.dispatch words (fun invocation => runCommand home invocation.words) session

end Codegen.CommandLine
