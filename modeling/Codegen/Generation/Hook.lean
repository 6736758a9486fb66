import Codegen.Generation.Run

/-!
Running the hooks of scripts. A hook runs once for each identity, and hooks that are absent are
reported once. What hooks do is given by a conduct, so that all of this holds for hooks that do
anything at all to the context and the registered members and have any other hooks run.
-/

namespace Codegen.Generation

open Codegen.Model Codegen.Plugin

/-- How a value is called in the texts that hooks write: by its qualified name, or else as it is
printed. -/
def identity (v : Value) : Step String := do
  match v with
  | .null => return ""
  | v =>
    let run ← get
    match Mixin.read run.model run.registry v "class_name_with_path" with
    | .ok name => if name.isTrue then displayed name else displayed v
    | .error failure => if failure.isMissingMember then displayed v else throw failure

def pushItem (key : String) (item : Value) : Step Unit := do
  match (← context).push key item with
  | .ok context => setContext context
  | .error other => throw (.noMember (other.typeName (← get).model) "append")

/-- The support settings that options ask for; where they say nothing, the defaults hold. -/
def supportSettings (mark : String) (options : Value) : Mixin.SupportSettings :=
  let settings : Mixin.SupportSettings := { mark }
  match options with
  | .record _ fields =>
    let settings := match fields.lookup "package_delimiter" with
      | some (.text delimiter) => { settings with delimiter }
      | _ => settings
    match fields.lookup "comment_width" with
    | some (.int width) => { settings with width }
    | _ => settings
  | _ => settings

def mixIn (document : Mixin.Document) : Step Unit := do
  match ← required "model" with
  | .entity .model =>
    let model := (← get).model
    let _ ← Step.ofRegistry fun registry => Mixin.apply model registry document
  | v => throw (.noMember (v.typeName (← get).model) "mixin")

/-- Does one action of a hook; `again` runs the hook of another script. -/
def perform (again : Nat → String → String → Step Bool) (value : Value) : Action → Step Unit
  | .append key text => do
    pushItem key (.text (Text.replace "\x7b\x7d" (← identity value) text))
  | .appendValue key => pushItem key value
  | .set key v => putContext key v
  | .setValue key => putContext key value
  | .delete key => do setContext (Table.erase key (← context))
  | .ensureList key => do
    let context ← context
    if (context.lookup key).isNone then setContext (Table.put key (.list []) context)
  | .extendList key => do
    let _ ← required key
    pushItem key value
  | .collectNames source target => do
    let listed := ((← context).lookup source).getD (.list [])
    let items ← Step.lift (listed.items (← get).model)
    let names ← items.mapM fun item => readMember item "class_name_with_path"
    putContext target (.list names)
  | .mixin document => mixIn document
  | .installSupport mark => do
    let settings := supportSettings mark (← required "options")
    Step.ofRegistry fun registry => (Mixin.installSupport settings registry, .ok ())
  | .installPlatform => do
    let settings := supportSettings Model.defaultMark (← required "options")
    Step.ofRegistry fun registry => (Mixin.installPlatform settings registry, .ok ())
  | .raise fault => throw (.fault fault)
  | .runOnce script kind identity => do
    pushItem "reentry" (.bool (← again script kind identity))

/-- The course of a hook: deeds, requests for further hooks, and an outcome. A deed may look at the
whole run. Whatever comes of a request, a failure included, the course goes on from it. -/
inductive Course
  | finish (outcome : Except Failure Unit)
  | deed (act : Step Unit) (next : Except Failure Unit → Run → Course)
  | ask (request : Request) (value : Value) (next : Except Failure Bool → Course)

namespace Course

/-- Follows a course. `again` is how further hooks are run. -/
def follow (again : Request → Value → Step Bool) : Course → Step Unit
  | finish outcome => Step.lift outcome
  | deed act next => do
    let outcome ← act.shared
    (next outcome (← get)).follow again
  | ask request value next => do
    let answer ← (again request value).outcome
    (next answer).follow again

def last (act : Step Unit) : Course := .deed act fun outcome _ => .finish outcome

/-- Goes on with `next` unless there is a failure. -/
def unlessFailed (next : Course) : Except Failure Unit → Run → Course
  | .ok (), _ => next
  | .error failure, _ => .finish (.error failure)

def ofActions (value : Value) : List Action → Course
  | [] => .finish (.ok ())
  | .runOnce script kind identity :: rest =>
    .ask ⟨script, kind, identity⟩ value fun answer =>
      .deed (perform (fun _ _ _ => Step.lift answer) value (.runOnce script kind identity))
        (unlessFailed (ofActions value rest))
  | action :: rest =>
    .deed (perform (fun _ _ _ => return false) value action) (unlessFailed (ofActions value rest))

end Course

def calleeCourse (args : List Value) : Callee → Course
  | .function f => .last do
    let run ← get
    let shared := Value.map (run.desk.context.map fun (name, v) => (.text name, v))
    let _ ← Step.lift (Mixin.invoke run.model run.registry f (shared :: args) [])
  | .hook actions =>
    if 1 < args.length then
      .finish (.error (.misuse (.arguments "hook" (.tooMany 1 2 (1 + args.length)))))
    else .ofActions (args.headD .null) actions

/-- Number of the actions that run other hooks, and two more. A hook that runs others does so for an
identity that is not yet marked, so that they nest no deeper. -/
def nestingBound (scripts : List Script) : Nat :=
  let again : Action → Bool
    | .runOnce .. => true
    | _ => false
  2 + (scripts.flatMap fun script => script.plugin.hooks.flatMap (·.2)).countP again

/-- How hooks behave: the course of a hook of a plugin, which is that of the script of a number, and
how many hooks may be open one inside the other. -/
structure Conduct where
  course? (number : Nat) (plugin : Plugin) (hook : String) : Option (List Value → Course)
  depth (scripts : List Script) : Nat

def Conduct.ofPlugins : Conduct where
  course? _ plugin hook := (plugin.callee? hook).map fun callee args => calleeCourse args callee
  depth := nestingBound

/-- Reports a missing hook, once for each script and hook. -/
def recordMissing (script : Script) (hook : String) : Step Unit := do
  let key := (script.path.toString, hook)
  unless key ∈ (← get).missed do
    modify fun run => { run with missed := run.missed ++ [key] }
    let message := s!"Script {script.name} has no {hook} hook"
    say Log.pluginsLogger .debug message
    modify fun run => { run with advisories := run.advisories ++ [⟨.missingHook, message⟩] }

def mark (script : Script) (request : Request) : Step Unit :=
  modify fun run =>
    { run with
      scripts := run.scripts.set request.script (script.mark request.kind request.identity) }

def scriptAt (number : Nat) : Step Script := do
  match (← get).scripts[number]? with
  | some script => return script
  | none => throw (.fault { kind := "IndexError", message := "list index out of range" })

/-- Runs the hook that a request is for unless that was done before, and tells whether it did. The
request is marked first, so that a hook that comes back to it finds it done. `begin_` is how the
course of the hook is begun. -/
def answerWith (conduct : Conduct) (begin_ : Course → Step Unit) (request : Request)
    (value : Value) : Step Bool := do
  let script ← scriptAt request.script
  if script.hasRun request.kind request.identity then
    record (.asked request value .done)
    return false
  else
    let hook := Plugin.hookName request.kind
    mark script request
    match conduct.course? request.script script.plugin hook with
    | none =>
      record (.asked request value .missing)
      recordMissing script hook
      return false
    | some course =>
      say Log.pluginsLogger .debug s!"Running {script.name}.{hook} for {request.identity}"
      begin_ (course [value])
      return true

/-- Goes through the course of a hook. At most `depth` hooks are open one inside the other. -/
def beginHook (conduct : Conduct) : (depth : Nat) → Request → Value → Course → Step Unit
  | 0, request, value, _ => do
    record (.asked request value .tooDeep)
    throw .nestedTooDeep
  | depth + 1, request, value, course => do
    record (.asked request value .entered)
    course.follow fun request value =>
      answerWith conduct (beginHook conduct depth request value) request value

/-- Answers a request with at most `depth` hooks open one inside the other. -/
def answer (conduct : Conduct) (depth : Nat) (request : Request) (value : Value) : Step Bool :=
  answerWith conduct (beginHook conduct depth request value) request value

/-- Runs the hook of a script for an identity unless that was done before. -/
def runOnce (number : Nat) (kind name : String) (value : Value)
    (conduct : Conduct := .ofPlugins) : Step Bool := do
  let request : Request := { script := number, kind, identity := name }
  record (.due request value)
  answer conduct (conduct.depth (← get).scripts) request value

/-- Calls a hook of a script if it has it, and tells whether it did. -/
def callScript (number : Nat) (hook : String) (args : List Value)
    (conduct : Conduct := .ofPlugins) : Step Bool := do
  match conduct.course? number (← scriptAt number).plugin hook with
  | none => return false
  | some course =>
    record (.called number hook)
    let depth := conduct.depth (← get).scripts
    (course args).follow (answer conduct depth)
    return true

def runLifecycle (number : Nat) (hook : String) (conduct : Conduct := .ofPlugins) : Step Bool := do
  let script ← scriptAt number
  if (conduct.course? number script.plugin hook).isNone then
    recordMissing script hook
    return false
  else
    say Log.pluginsLogger .debug s!"Running {script.name}.{hook}"
    callScript number hook [] conduct

end Codegen.Generation
