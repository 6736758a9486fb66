import Codegen.CommandLine.Program
import Codegen.Proofs.Settings.Schema

/-! What a call of the command that generates takes from its words and what from the configuration. -/

namespace Codegen.CommandLine

open Codegen.Files Codegen.Settings

namespace Request

variable {request : Request} {settings : List (String × Value)} {configured : Options}

def amend (request : Request) (configured : Options) : Options :=
  { configured with
    output := request.output.getD configured.output
    platform := request.platform.getD configured.platform
    platformDirectory :=
      (request.platformDirectory.map Path.ofString).or configured.platformDirectory }

theorem overrides_named (request : Request) :
    ∀ override ∈ request.overrides, override.1 ∈ Options.names := by
  simp [overrides, Options.names]

def value? (request : Request) (name : String) : Option String :=
  if name = "output" then request.output
  else if name = "platform" then request.platform
  else if name = "platform_dir" then request.platformDirectory
  else none

theorem lookup_overlay (request : Request) (settings : List (String × Value)) (name : String) :
    (overlay request.overrides settings).lookup name =
      ((request.value? name).map .text).or (settings.lookup name) := by
  rw [Settings.lookup_overlay, value?]
  congr 1
  rcases request with ⟨model, platform, directory, output, configuration, isVerbose, isQuiet⟩
  by_cases houtput : name = "output"
  · subst houtput
    cases platform <;> cases directory <;> cases output <;> rfl
  by_cases hplatform : name = "platform"
  · subst hplatform
    cases platform <;> cases directory <;> cases output <;> rfl
  by_cases hdirectory : name = "platform_dir"
  · subst hdirectory
    cases platform <;> cases directory <;> cases output <;> rfl
  cases platform <;> cases directory <;> cases output <;>
    simp [overrides, Value.ofOption, isGiven, houtput, hplatform, hdirectory]

theorem follows {α : Type} {name : String} {check : Value → Checked α} {default x y : α}
    (h : Follows settings name check default x)
    (hgiven : ∀ s, request.value? name = some s → check (.text s) = .ok y)
    (hnone : request.value? name = none → y = x) :
    Follows (overlay request.overrides settings) name check default y := by
  rw [Follows, lookup_overlay]
  cases hvalue : request.value? name with
  | none =>
      obtain rfl := hnone hvalue
      exact h
  | some s => exact hgiven s hvalue

theorem reads_amend (h : Options.Reads settings configured) (request : Request) :
    Options.Reads (overlay request.overrides settings) (request.amend configured) where
  output := follows h.output (by simp +contextual [value?, amend, Checked.text_text])
    (by simp +contextual [value?, amend])
  platform := follows h.platform (by simp +contextual [value?, amend, Checked.text_text])
    (by simp +contextual [value?, amend])
  platformDirectory := follows h.platformDirectory
    (by simp +contextual [value?, amend, pathCheck, Checked.text_text]) (by simp +contextual [value?, amend])
  globalPlugins := follows h.globalPlugins (by simp [value?]) fun _ => rfl
  delimiter := follows h.delimiter (by simp [value?]) fun _ => rfl
  templateExtension := follows h.templateExtension (by simp [value?]) fun _ => rfl
  scriptExtension := follows h.scriptExtension (by simp [value?]) fun _ => rfl
  commentWidth := follows h.commentWidth (by simp [value?]) fun _ => rfl
  further := by
    rw [further_overlay request.overrides_named]
    exact h.further

theorem options_amend {c : Configuration} (hsettings : c.settings = .ok settings)
    (hconfigured : Options.check settings = .ok configured) (request : Request) :
    c.options request.overrides = .ok (request.amend configured) := by
  have hchecked := Options.check_ok_iff.mpr (reads_amend (Options.check_ok_iff.mp hconfigured) request)
  rw [Configuration.options, hsettings]
  simp only [Except.bind, hchecked]

/-- The platform of a name: the directory that the name leads to, or else the bundled one. -/
def named (home : Place) (w : Workspace) (name : String) : Except Failure Path :=
  (w.isDirectory? (.ofString name)).map fun isDirectory =>
    if isDirectory then .ofString name else Platform.platformsRoot home ++ .ofString name

/-- The directory of the platform. A configured one yields to one that the call gives, but not to a
platform that the call names. -/
def directory (home : Place) (w : Workspace) (request : Request) (configured : Options) :
    Except Failure Path :=
  match request.platformDirectory, configured.platformDirectory with
  | some directory, _ => .ok (.ofString directory)
  | none, some directory => .ok directory
  | none, none => named home w (request.platform.getD configured.platform)

theorem chosenDirectory_amend (home : Place) (w : Workspace) (request : Request)
    (configured : Options) :
    Platform.chosenDirectory home w (request.amend configured) =
      request.directory home w configured := by
  rw [Platform.chosenDirectory, directory, amend]
  cases request.platformDirectory with
  | some given => rfl
  | none =>
      cases configured.platformDirectory with
      | some given => rfl
      | none =>
          dsimp only [Option.map, Option.or, named]
          cases w.isDirectory? (.ofString (request.platform.getD configured.platform)) with
          | error failure => rfl
          | ok isDirectory => cases isDirectory <;> rfl

theorem choose_amend (home : Place) (w : Workspace) (request : Request) (configured : Options) :
    Generation.Sources.choose home w (request.amend configured) =
      (request.directory home w configured).map fun platform =>
        { platform
          globals := Platform.chosenGlobals home configured
          scriptExtension := configured.scriptExtension
          templateExtension := configured.templateExtension } := by
  rw [Generation.Sources.choose, chosenDirectory_amend]
  cases request.directory home w configured <;> rfl

/-- The levels of loggers that a call begins with. -/
def levels (request : Request) : Log.Levels :=
  if request.isVerbose then { root := Log.debugLevel } else {}

end Request

/-! The command with its options settled. -/

/-- Generates with certain options. -/
def generateWith (home : Place) (request : Request) (options : Options) :
    Working Generation.Report := do
  let sources ← Working.lift
    (Generation.Sources.choose home (← get).session.workspace options)
  unless request.isQuiet do
    print (styled "header" s!"\nGenerating {request.model}\n")
    print ("  " ++ labelled "Platform" sources.platform.toString)
    print ("  " ++ labelled "Output" options.output)
  Working.ofStep request.isQuiet (Generation.generateFile sources options request.model)

/-- What the command shows of a generation and of its failure. -/
def concluding (request : Request) (generation : Working Generation.Report) : Working Bool := do
  let report? : Option Generation.Report ←
    try
      let report ← generation
      pure (some report)
    catch
      | .generation e => do
        print ("\n" ++ styled "error" ("✗ Generation failed: " ++ e.text))
        pure none
      | failure => throw failure
  match report? with
  | none => return false
  | some report =>
    unless request.isQuiet do printReport report
    return true

theorem generate_eq (home : Place) (request : Request) :
    generate home request = concluding request (generateOnce home request) := rfl

theorem run_concluding {request : Request} {generation other : Working Generation.Report}
    {terminal terminal' : Terminal} (h : generation.run terminal = other.run terminal') :
    (concluding request generation).run terminal = (concluding request other).run terminal' := by
  rw [concluding, concluding, Stateful.run_bind, Stateful.run_bind, Stateful.run_tryCatch,
    Stateful.run_tryCatch, Stateful.run_bind, Stateful.run_bind, h]

theorem run_lift {α : Type} (outcome : Except Failure α) (terminal : Terminal) :
    (Working.lift outcome).run terminal = (outcome, terminal) := by
  cases outcome <;> rfl

theorem run_ofSettling {α : Type} (settling : Settling α) (terminal : Terminal) :
    (Working.ofSettling settling).run terminal =
      ((settling.run terminal.session).1,
        { terminal with session := (settling.run terminal.session).2 }) := by
  rw [Working.ofSettling, Stateful.run_bind_ok (Stateful.run_get terminal)]
  rcases settling.run terminal.session with ⟨outcome, after⟩
  dsimp only
  rw [Stateful.run_bind_ok (Stateful.run_set _ _), run_lift]

section

variable {session after : Session} {c : Configuration} {settings : List (String × Value)}
  {configured : Options}

theorem run_generateOnce (home : Place) {request : Request}
    (hread : (Session.configuration request.configuration false).run
      { session with levels := request.levels } = (.ok c, after))
    (hsettings : c.settings = .ok settings) (hconfigured : Options.check settings = .ok configured) :
    (generateOnce home request).run { session := { session with levels := {} } } =
      (generateWith home request (request.amend configured)).run { session := after } := by
  have hoptions : (Session.options request.configuration request.overrides).run
      { session with levels := request.levels } = (.ok (request.amend configured), after) := by
    rw [Session.run_options, hread]
    exact congrArg (·, after) (Request.options_amend hsettings hconfigured request)
  have hrest : (do
      let options ← Working.ofSettling
        (Session.options request.configuration request.overrides)
      generateWith home request options : Working Generation.Report).run
        { session := { session with levels := request.levels } } =
      (generateWith home request (request.amend configured)).run { session := after } := by
    rw [Stateful.run_bind, run_ofSettling, hoptions]
  rw [← hrest, Request.levels, generateOnce]
  cases request.isVerbose <;> rfl

theorem run_generate (home : Place) {words : List String} {invocation : Invocation}
    {operand : Option String} (hparse : generateCommand.parse {} words = .ok invocation)
    (hasks : generateCommand.information? invocation = none)
    (hcheck : generateCommand.check session.workspace invocation = .ok operand) :
    run home ("generate" :: words) session =
      (generate home (.ofInvocation invocation (operand.getD ""))).finish
        { session with levels := {} } := by
  have hprogram : programCommand.parse {} ("generate" :: words) =
      .ok { words := "generate" :: words } := by
    rw [Command.parse, if_neg (by decide), if_neg (by decide), if_neg (by decide)]
    rfl
  rw [run, if_neg (by simp), Command.dispatch, hprogram]
  show generateCommand.dispatch words (generateCommand.carryOut _) _ = _
  rw [Command.dispatch, hparse]
  dsimp only
  rw [hasks]
  dsimp only
  rw [Command.carryOut, hcheck]

/-- A call generates with the options of an accepted configuration, in which its own output and
platform stand in place of the configured ones. The directory of the platform is the one that the call
gives, or else the one that is configured, and only without both the one of the platform's name. -/
theorem generate_precedence (home : Place) {words : List String} {invocation : Invocation}
    {operand : Option String} (hparse : generateCommand.parse {} words = .ok invocation)
    (hasks : generateCommand.information? invocation = none)
    (hcheck : generateCommand.check session.workspace invocation = .ok operand)
    (hread : (Session.configuration (invocation.value? "--config") false).run
      { session with levels := (Request.ofInvocation invocation (operand.getD "")).levels } =
        (.ok c, after))
    (hsettings : c.settings = .ok settings) (hconfigured : Options.check settings = .ok configured) :
    let request := Request.ofInvocation invocation (operand.getD "")
    let options := { configured with
      output := (invocation.value? "--output").getD configured.output
      platform := (invocation.value? "--platform").getD configured.platform
      platformDirectory :=
        ((invocation.value? "--platform-dir").map Path.ofString).or configured.platformDirectory }
    run home ("generate" :: words) session =
      (concluding request (generateWith home request options)).finish after ∧
    (∀ w, Generation.Sources.choose home w options =
      Except.map (fun platform =>
          { platform
            globals := Platform.chosenGlobals home configured
            scriptExtension := configured.scriptExtension
            templateExtension := configured.templateExtension })
        (match invocation.value? "--platform-dir", configured.platformDirectory with
        | some directory, _ => .ok (.ofString directory)
        | none, some directory => .ok directory
        | none, none =>
          Request.named home w ((invocation.value? "--platform").getD configured.platform))) ∧
    Options.Reads settings configured := by
  intro request options
  refine ⟨?_, fun w => Request.choose_amend home w request configured,
    Options.check_ok_iff.mp hconfigured⟩
  rw [run_generate home hparse hasks hcheck, generate_eq]
  rw [Working.finish, Working.finish, run_concluding (run_generateOnce home hread hsettings hconfigured)]
  rfl

end

def configuredSession : Session where
  workspace := ⟨⟨[(["mdagen.yml"], .file (.bytes
      "generation:\n  platform_dir: confp\n  comment_width: 72\n".toUTF8)),
    (["shop.yml"], .file (.bytes "name: shop\n".toUTF8)), (["confp"], .directory),
    (["flagp"], .directory)]⟩, []⟩
  environment := []

/-- The configured directory is taken although the call names a platform that is there. -/
theorem generate_precedence_configured :
    ∃ request options after, request.platform = some "flagp" ∧
      run [] ["generate", "shop.yml", "-p", "flagp"] configuredSession =
        (concluding request (generateWith [] request options)).finish after ∧
      ∀ w, (Generation.Sources.choose [] w options).map (·.platform) = .ok (.ofString "confp") := by
  let invocation : Invocation := ⟨[("--platform", some "flagp")], ["shop.yml"]⟩
  have hparse : generateCommand.parse {} ["shop.yml", "-p", "flagp"] = .ok invocation := by
    decide +kernel
  have hcheck : generateCommand.check configuredSession.workspace invocation = .ok (some "shop.yml") := by
    decide +kernel
  have hconfigured : ((Session.configuration none false).run
      { configuredSession with levels := {} }).1.toOption.bind (fun c =>
        c.settings.toOption.bind fun settings =>
          (Options.check settings).toOption.map (·.platformDirectory)) =
      some (some (.ofString "confp")) := by
    decide +kernel
  rcases hread : (Session.configuration none false).run { configuredSession with levels := {} } with
    ⟨failure | c, after⟩ <;> rw [hread] at hconfigured
  · cases hconfigured
  obtain ⟨_, hc, hconfigured⟩ := Option.bind_eq_some_iff.mp hconfigured
  cases hc
  obtain ⟨settings, hsettings, hconfigured⟩ := Option.bind_eq_some_iff.mp hconfigured
  obtain ⟨configured, hchecked, hdirectory⟩ := Option.map_eq_some_iff.mp hconfigured
  obtain ⟨hrun, hchoose, _⟩ := generate_precedence [] hparse (by decide +kernel) hcheck hread
    (by cases h : c.settings <;> rw [h] at hsettings <;> cases hsettings; rfl)
    (by cases h : Options.check settings <;> rw [h] at hchecked <;> cases hchecked; rfl)
  refine ⟨_, _, after, rfl, hrun, fun w => ?_⟩
  rw [hchoose w, hdirectory]
  rfl

end Codegen.CommandLine
