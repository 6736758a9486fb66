import Codegen.Log.Level
import Codegen.Text.Case
import Codegen.Value.Format
import Codegen.Value.Signature

/-!
Loggers of components. Each writes its messages in a colour of its own, with the component in front.
What is written out may hold marks of style, which have to be well formed.
-/

namespace Codegen.Log

/-- A logger: its name among the loggers, the component it speaks for, and its colour. -/
structure Component where
  logger : String
  name : String
  color : Value

instance : Inhabited Component := ⟨⟨"", "", .null⟩⟩

inductive Method
  | status
  | keyInfo
  | info
  | debug
  | warning
  | error
  | success
  | timing
  | critical
  | exception
  deriving Repr, DecidableEq, Inhabited

namespace Method

def name : Method → String
  | status => "status"
  | keyInfo => "key_info"
  | info => "info"
  | debug => "debug"
  | warning => "warning"
  | error => "error"
  | success => "success"
  | timing => "timing"
  | critical => "critical"
  | exception => "exception"

def all : List Method :=
  [status, keyInfo, info, debug, warning, error, success, timing, critical, exception]

def ofName? (text : String) : Option Method := all.find? (·.name = text)

def level : Method → Int
  | debug => debugLevel
  | warning => warningLevel
  | error | exception => errorLevel
  | critical => criticalLevel
  | _ => infoLevel

def style (color : String) : Method → String
  | status | keyInfo => "bold " ++ color
  | info => color
  | debug => "dim " ++ color
  | warning => "bold yellow"
  | error | critical | exception => "bold red"
  | success => "bold green"
  | timing => "bold white"

def emblem : Method → String
  | debug => "🔍 "
  | warning => "⚠️  "
  | error | critical | exception => "❌ "
  | success => "✅ "
  | timing => "🕒 "
  | _ => ""

/-- What is given to a logger along with the message: values for its places, or whether to show
where an error came from. -/
def signature (method : Method) : Signature :=
  { name := "ComponentLogger." ++ method.name, required := ["self", "message"]
    optional := if method == error then ["exc_info"] else [] }

def takesValues (method : Method) : Bool := method == critical || method == exception

end Method

structure Record where
  logger : String
  level : String
  message : String
  deriving Repr, DecidableEq

/-- The record of a message; nothing below the logger's level. -/
def record? (levels : Levels) (logger : String) (level : Int) (message : Except Failure String) :
    Except Failure (Option Record) := do
  if levels.isEnabled logger level then
    let message ← message
    match Console.fault? message with
    | none => return some ⟨logger, levelName level, message⟩
    | some fault => throw (.markup fault)
  else return none

/-- A message with its places filled in. A mapping on its own is looked up in by key. -/
def filledIn (message : String) : List Value → Except Failure String
  | [] => .ok message
  | [.map (entry :: entries)] => Value.filled {} message (.map (entry :: entries))
  | values => Value.filled {} message (.tuple values)

def componentColors : List (String × String) :=
  [("pipeline", "magenta"), ("plugins", "cyan"), ("renderer", "blue"), ("output", "green"),
   ("model", "yellow")]

def plainColor : String := "white"

namespace Component

def ofName (name : String) : Component :=
  ⟨name, name, .text ((componentColors.lookup name).getD plainColor)⟩

def format (component : Component) (message style emblem : String) : String :=
  let line := emblem ++ Text.title component.name ++ ": " ++ message
  if style = "" then line else "[" ++ style ++ "]" ++ line ++ "[/" ++ style ++ "]"

def log (component : Component) (levels : Levels) : List Value → Except Failure (Option Record)
  | level :: message :: values =>
    match level.amount? with
    | some (.whole level) =>
      record? levels component.logger level (filledIn (message.display {}) values)
    | _ => .error (.misuse .levelType)
  | args => do
    let signature : Signature :=
      { name := "ComponentLogger.log", required := ["self", "level", "message"] }
    let _ ← signature.bind (.null :: args) []
    return none

def emit (component : Component) (levels : Levels) (method : Method) (args : List Value) :
    Except Failure (Option Record) := do
  let (own, values) := if method.takesValues then (args.take 1, args.drop 1) else (args, [])
  let _ ← method.signature.bind (.null :: own) []
  let message := (args.headD .null).display {}
  let style := method.style (component.color.display {})
  record? levels component.logger method.level
    (filledIn (component.format message style method.emblem) values)

def say (component : Component) (levels : Levels) (method : Method) (message : String) :
    Except Failure Unit := do
  let _ ← component.emit levels method [.text message]

end Component

def pipelineLogger : Component := .ofName "pipeline"

def pluginsLogger : Component := .ofName "plugins"

def rendererLogger : Component := .ofName "renderer"

def outputLogger : Component := .ofName "output"

def modelLogger : Component := .ofName "model"

/-- The logger of what goes on while configurations are read. It speaks for no component. -/
def configurationLogger : String := "CONFIG"

end Codegen.Log
