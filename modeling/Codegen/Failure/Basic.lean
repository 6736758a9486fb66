import Codegen.Console.Markup
import Codegen.Failure.Generation
import Codegen.Failure.Kind
import Codegen.Failure.Misuse
import Codegen.Schema.Report
import Codegen.Files.Tree
import Codegen.Settings.Environment

/-!
Everything that can end an operation, by cause. `Failure.message?` gives the wording where the cause
has one of its own.
-/

namespace Codegen

open Codegen.Model

inductive Unreadable
  | yaml
  | json
  | encoding
  | emptyNumber
  | moment
  | nesting
  | misuse (what : Misuse)
  deriving Repr, DecidableEq, Inhabited

/-- The causes. A filter that is unknown when a template is compiled is told apart from one that is
missed only when the template runs. -/
inductive Failure
  | generation (e : GenerationError)
  | fault (f : Fault)
  | settings (problems : List SchemaProblem)
  | files (cause : Files.Refusal) (path : String)
  | undefined (what : Missing)
  | templateNotFound (name : String)
  | templatesNotFound (names : List String)
  | templateMalformed
  | unknownFilter (name : String)
  | filterGone (name : String)
  | roundsRenamed
  | argumentRepeated
  | notReversible
  | noMember (typeName name : String)
  | reservedMember (name : String)
  | unknownMethod (typeName name : String)
  | entityAbsent (inModel : Bool)
  | memberFailed (property typeName entity cause : String)
  | memberNotFunction (name : String) (kind : EntityKind) (typeName : String)
  | helperNotFunction (name typeName : String)
  | unknownEntityKind (name : String)
  | unknownSections (names : List String) (kind : String)
  | aliasNotText (file typeName : String)
  | configurationNotFound (path : String)
  | configurationNotMapping (path : String)
  | sectionNotMapping (name : String)
  | configurationPathEmpty
  | settingNameNotText
  | badVariable (cause : Settings.VariableFault)
  | variableReserved
  | contextLacks (name : String)
  | componentUnnamed
  | emptyDelimiter
  | unknownOutputMode (name : String)
  | badPattern
  | unreadable (cause : Unreadable)
  | misuse (what : Misuse)
  | nestedTooDeep
  | nullInPath
  | linksCircular (path : String)
  | markup (cause : Console.MarkupFault)

namespace Failure

/-- Whether the failure means no more than that an entity lacks a member. -/
def isMissingMember : Failure → Bool
  | noMember .. | reservedMember _ | unknownMethod .. | entityAbsent false | unreadable .moment => true
  | fault f => f.isOf "AttributeError"
  | _ => false

def isOfFiles : Failure → Bool
  | files cause _ => cause ≠ .nullCharacter
  | configurationNotFound _ => true
  | fault f => f.isOf "OSError"
  | _ => false

/-- Whether the failure is not to be caught, as when it interrupts the whole program. -/
def isInterrupt : Failure → Bool
  | fault f => !f.isOf "Exception"
  | _ => false

/-- Whether a plugin could not be loaded. -/
def isPluginLoad : Failure → Bool
  | generation (.plugin ..) => true
  | fault f => f.isOf "PluginLoadError"
  | _ => false

def endsIteration : Failure → Bool
  | fault f => f.isOf "StopIteration"
  | _ => false

def refusalText (cause : Files.Refusal) (path : String) : String :=
  let numbered (n : Nat) (text : String) := s!"[Errno {n}] {text}: " ++ Text.quoted path
  match cause with
  | .notFound => numbered 2 "No such file or directory"
  | .exists => numbered 17 "File exists"
  | .notDirectory => numbered 20 "Not a directory"
  | .isDirectory => numbered 21 "Is a directory"
  | .nameTooLong => numbered 36 "File name too long"
  | .tooManyLinks => numbered 40 "Too many levels of symbolic links"
  | .nullCharacter => "embedded null byte"
  | .noSpace => "[Errno 28] No space left on device"

def message? : Failure → Option String
  | generation e => some e.text
  | fault f => some f.message
  | undefined what => some what.message
  | templateNotFound name => some name
  | templatesNotFound [] => some "Tried to select from an empty list of templates."
  | templatesNotFound names => some ("none of the templates given were found: " ++ Text.join ", " names)
  | noMember typeName name => some s!"'{typeName}' object has no attribute '{name}'"
  | reservedMember name => some name
  | memberFailed property typeName entity cause =>
    some s!"Mixin property '{property}' of {typeName} '{entity}' failed: {cause}"
  | memberNotFunction name kind typeName =>
    some s!"Mixin '{name}' for {kind.name} must be callable, got {typeName}"
  | helperNotFunction name typeName =>
    some s!"Helper '{name}' must be callable, got {typeName}"
  | unknownEntityKind name =>
    some (s!"Unknown entity kind '{name}'. Valid kinds: "
      ++ Text.join ", " (EntityKind.all.map EntityKind.name))
  | unknownSections names kind =>
    some (s!"Unknown mixin section(s) {listText (names.map Text.quoted)} for '{kind}'. "
      ++ "Use 'get' for properties and 'call' for methods.")
  | aliasNotText file typeName =>
    some (s!"{file} must contain a JSON string naming a platform-relative directory, "
      ++ s!"got {typeName}")
  | configurationNotFound path => some s!"Configuration file not found: {path}"
  | configurationNotMapping path =>
    some s!"Configuration file must contain a dictionary/mapping: {path}"
  | sectionNotMapping name => some s!"Configuration section '{name}' must be a mapping"
  | configurationPathEmpty => some "Configuration path cannot be empty or None"
  | settingNameNotText => some "keywords must be strings"
  | variableReserved => some "Template.render() got multiple values for argument 'self'"
  | contextLacks name => some name
  | componentUnnamed =>
    some ("Component name is required. Usage: get_logger('component_name') or "
      ++ "get_logger(name='custom_name', color='blue')")
  | emptyDelimiter => some "empty separator"
  | nullInPath => some "embedded null byte"
  | _ => none

def text : Failure → String
  | fault f => if f.isOf "KeyError" then Text.quoted f.message else f.message
  | contextLacks name => Text.quoted name
  | files cause path => refusalText cause path
  | unknownFilter name => "No filter named " ++ Text.quoted name ++ "."
  | filterGone name => "No filter named " ++ Text.quoted name ++ " found."
  | roundsRenamed => "Can't assign to special loop variable in for-loop target"
  | argumentRepeated => "keyword argument repeated"
  | notReversible => "argument must be iterable"
  | unknownMethod typeName name => s!"'{typeName}' object has no attribute '{name}'"
  | entityAbsent inModel =>
    if inModel then "list index out of range" else "'NoneType' object has no attribute 'classes'"
  | misuse what | unreadable (.misuse what) => what.text
  | unreadable .emptyNumber => "string index out of range"
  | unreadable .moment => "'NoneType' object has no attribute 'groupdict'"
  | markup cause => cause.message
  | nestedTooDeep | unreadable .nesting => "maximum recursion depth exceeded"
  | badPattern => "Invalid pattern: '**' can only be an entire path component"
  | unknownOutputMode name => Text.quoted name ++ " is not a valid OutputMode"
  | badVariable cause => cause.message
  | linksCircular path => "Symlink loop from " ++ Text.quoted path
  | settings problems => SchemaProblem.report RecordKind.options.name problems
  | e => e.message?.getD ""

end Failure

end Codegen
