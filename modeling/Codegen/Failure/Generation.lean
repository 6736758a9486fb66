import Codegen.Value.Basic

/-!
Conditions that a generation run reports. The kind of a condition decides whether it stops the run.
-/

namespace Codegen

inductive ErrorKind
  | modelValidation
  | unknownOutputDirective
  | outputDirective
  | pluginLoad
  | missingHook
  | emptyDiscovery
  deriving Repr, DecidableEq, Inhabited

namespace ErrorKind

def all : List ErrorKind :=
  [modelValidation, unknownOutputDirective, outputDirective, pluginLoad, missingHook, emptyDiscovery]

def name : ErrorKind → String
  | modelValidation => "model_validation"
  | unknownOutputDirective => "unknown_output_directive"
  | outputDirective => "output_directive"
  | pluginLoad => "plugin_load"
  | missingHook => "missing_hook"
  | emptyDiscovery => "empty_discovery"

def ofName? (text : String) : Option ErrorKind := all.find? (·.name = text)

def isFatal : ErrorKind → Bool
  | missingHook | emptyDiscovery => false
  | _ => true

end ErrorKind

structure Advisory where
  kind : ErrorKind
  message : String
  deriving Repr, DecidableEq, Inhabited

inductive GenerationError
  | general (message : String) (kind : ErrorKind) (details : List (String × Value))
  | model (message : String) (problems : List String)
  | directive (message : String) (template : Option String) (kind : ErrorKind)
  | unknownMode (mode : String) (template : Option String)
  | plugin (message : String) (path : Option String)

namespace GenerationError

def kind : GenerationError → ErrorKind
  | general _ kind _ => kind
  | model .. => .modelValidation
  | directive _ _ kind => kind
  | unknownMode .. => .unknownOutputDirective
  | plugin .. => .pluginLoad

def headline : GenerationError → String
  | general message _ _ => message
  | model message _ => message
  | directive message _ _ => message
  | unknownMode mode template =>
    "Unknown output directive '" ++ mode ++ "'"
      ++ (match template with
        | none | some "" => ""
        | some template => " in template " ++ template)
  | plugin message _ => message

def text : GenerationError → String
  | model message problems =>
    if problems.isEmpty then message
    else message ++ "\n" ++ Text.join "\n" (problems.map ("  - " ++ ·))
  | e => e.headline

def details : GenerationError → List (String × Value)
  | general _ _ details => details
  | model _ problems => [("problems", .ofTexts problems)]
  | directive _ template _ | unknownMode _ template => [("template", .ofOption .text template)]
  | plugin _ path => [("path", .ofOption .text path)]

def malformedModel (problems : List String) : GenerationError :=
  .model "Model document is malformed" problems

def invalidModel (name : String) (problems : List String) : GenerationError :=
  .model s!"Model '{name}' failed validation with {problems.length} problem(s)" problems

/-- The file holds no document at all; `cause` is the reader's complaint. -/
def unreadableModel (path cause : String) : GenerationError :=
  .model s!"Model file {path} is not valid YAML/JSON" [cause]

def malformedDirective (line : String) (template : Option String) : GenerationError :=
  let source := template.getD "None"
  .directive
    (s!"Malformed output directive '{line}' in template {source}: "
      ++ "expected a mode and an optional path")
    template .outputDirective

def occupiedProperty (name typeName : String) : GenerationError :=
  .directive
    (s!"Cannot accumulate property output into '{name}': "
      ++ s!"the context already holds a {typeName} under that name")
    none .outputDirective

def helperUndefined (file stem : String) : GenerationError :=
  .plugin s!"Helper file {file} must define a callable named '{stem}' or 'helper'" (some file)

def notAPlugin (file : String) : GenerationError :=
  .plugin s!"Cannot load spec from: {file}" (some file)

def pluginFailed (file cause : String) : GenerationError :=
  .plugin s!"Failed to load plugin {file}: {cause}" (some file)

end GenerationError

end Codegen
