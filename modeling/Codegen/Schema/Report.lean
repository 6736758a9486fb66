import Codegen.Schema.Fault
import Codegen.Value.Display

/-!
Reports of what a schema finds wrong, with one paragraph for each problem.
-/

namespace Codegen

def startWithin (bytes : Nat) : List Char → List Char
  | [] => []
  | c :: rest => if c.utf8Size ≤ bytes then c :: startWithin (bytes - c.utf8Size) rest else []

/-- Number of bytes that an input may take in a report; of a longer one, both ends are shown. -/
def inputLimit : Nat := 50

def startLimit : Nat := 25

def endLimit : Nat := 24

def abbreviated (text : String) : String :=
  if text.utf8ByteSize ≤ inputLimit then text
  else
    String.ofList (startWithin startLimit text.toList) ++ "..."
      ++ String.ofList (startWithin endLimit text.toList.reverse).reverse

namespace SchemaProblem

/-- Where the code of a fault is explained; the codes of paths are not. -/
def reference (fault : SchemaFault) : String :=
  match fault with
  | .notPath => ""
  | fault =>
    "\n    For further information visit "
      ++ Text.join "/" ["https:", "", "errors.pydantic.dev", "2.14", "v", fault.code]

def paragraph (p : SchemaProblem) : String :=
  let input := abbreviated (p.input.quoted {})
  Text.join "." (p.location.map DocumentStep.text) ++ "\n  " ++ p.fault.message
    ++ s!" [type={p.fault.code}, input_value={input}, input_type={p.input.typeName {}}]"
    ++ reference p.fault

def report (name : String) (problems : List SchemaProblem) : String :=
  let noun := if problems.length = 1 then "error" else "errors"
  s!"{problems.length} validation {noun} for {name}\n"
    ++ Text.join "\n" (problems.map paragraph)

end SchemaProblem

end Codegen
