import Codegen.Settings.Options
import Codegen.Failure.Basic
import Codegen.Table

/-!
What templates and hooks share in a run: named values, among them the model, the options, and the
class and stereotype at hand.
-/

namespace Codegen.Generation

/-- Named values in the order of their first appearance. -/
abbrev Context := List (String × Value)

namespace Context

def initial (model : Value) (options : Settings.Options) : Context :=
  [("model", model), ("options", options.value), ("output", .text options.output),
   ("class", .null), ("stereotype", .null)]

def setClass (context : Context) (classifier stereotype : Value) : Context :=
  Table.put "stereotype" stereotype (Table.put "class" classifier context)

/-- A list of the context with a further item; an absent list counts as empty. Anything else under
the name is returned instead. -/
def push (context : Context) (name : String) (item : Value) : Except Value Context :=
  match context.lookup name with
  | none => .ok (Table.put name (.list [item]) context)
  | some (.list items) => .ok (Table.put name (.list (items ++ [item])) context)
  | some other => .error other

def accumulate (m : Model) (context : Context) (name body : String) : Except Failure Context :=
  match context.push name (.text body) with
  | .ok context => .ok context
  | .error other => .error (.generation (.occupiedProperty name (other.typeName m)))

end Context

end Codegen.Generation
