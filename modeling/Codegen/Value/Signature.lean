import Codegen.Failure.Basic

/-!
Parameters of functions and how arguments are given to them: by position, or by the name of the
parameter. No parameter takes two arguments.
-/

namespace Codegen

/-- A function's name and its parameters. Those in `supplied` come first and are filled by the
engine. -/
structure Signature where
  name : String
  supplied : List String := []
  required : List String
  optional : List String := []

namespace Signature

def parameters (s : Signature) : List String := s.required ++ s.optional

def fault {α : Type} (s : Signature) (what : ArgumentFault) : Except Failure α :=
  .error (.misuse (.arguments s.name what))

/-- Checks a name in front of an argument; `taken` are the parameters that have theirs. -/
def checkName (s : Signature) (taken : List String) (name : String) : Except Failure (List String) :=
  if name ∈ taken then s.fault (.repeated name)
  else if name ∈ s.parameters then .ok (name :: taken)
  else s.fault (.unexpected name)

/-- Pairs arguments with parameters. Names are checked before the number of arguments. -/
def bind (s : Signature) (positional : List Value) (named : List (String × Value)) :
    Except Failure (List (String × Value)) := do
  let filled := s.parameters.zip positional ++ named
  let _ ← (named.map (·.1)).foldlM s.checkName
    (s.supplied ++ (s.parameters.take positional.length))
  if s.parameters.length < positional.length then
    let least := s.supplied.length + s.required.length
    let most := s.supplied.length + s.parameters.length
    s.fault (.tooMany least most (s.supplied.length + positional.length))
  else
    match s.required.filter fun name => (filled.lookup name).isNone with
    | [] => return filled
    | names => s.fault (.missing names)

def arrange (s : Signature) (positional : List Value) (named : List (String × Value)) :
    Except Failure (List Value) := do
  let given ← s.bind positional named
  return s.required.filterMap fun name => given.lookup name

end Signature

end Codegen
