import Codegen.Log.Component
import Codegen.Model.Reader
import Codegen.Workspace.Basic
import Codegen.Yaml.Reading

/-! Models from files. -/

namespace Codegen.Model

/-- What makes a document of the bytes of a file. -/
abbrev DocumentReader := ByteArray → Except Failure Value

/-- The reader of YAML. It decodes all of the file before it looks at any. -/
def DocumentReader.yaml : DocumentReader := fun data =>
  match String.fromUTF8? data with
  | none => .error (.unreadable .encoding)
  | some text =>
    match Yaml.read (Text.unifyLines text) with
    | .ok reading => .ok reading.value
    | .error cause => .error (.unreadable cause)

def parsedMessage (m : Model) : String :=
  s!"Parsed model '{m.name}' with {m.classes.length} classes"

/-- The model of a document, once the log has been told of it. -/
def parse (levels : Log.Levels) (data : Value) (delimiter : String) : Except Failure Model := do
  let m ← ofValue data delimiter
  Log.modelLogger.say levels .debug (parsedMessage m)
  return m

def readingMessage (path : Files.Path) : String := s!"Reading model from {path}"

/-- The model of a file. That `reader` finds no document there is a problem of the model; any other of
its failures comes out as it is. -/
def read (levels : Log.Levels) (w : Workspace) (path delimiter : String)
    (reader : DocumentReader := .yaml) : Except Failure Model := do
  let path := Files.Path.ofString path
  Log.modelLogger.say levels .info (readingMessage path)
  if path.toString.contains '\x00' then throw .nullInPath
  match reader (← w.readBytes path) with
  | .ok data => parse levels data delimiter
  | .error (.unreadable .yaml) =>
    throw (.generation (.unreadableModel path.toString "malformed document"))
  | .error failure => throw failure

end Codegen.Model
