import Codegen.Log.Setup
import Codegen.Main
import Codegen.Model.Place
import Codegen.Generation.Execution
import Codegen.Proofs.Generation.ExactlyOnce
import Codegen.Proofs.Generation.Nesting
import Codegen.Proofs.Generation.Stages
import Codegen.Proofs.Files.Reach
import Codegen.Proofs.Output.Sending
import Codegen.Proofs.Generation.Reported
import Codegen.Proofs.Output.Touched
import Codegen.Proofs.Generation.Outputs
import Codegen.Proofs.Output.Again
import Codegen.Proofs.Generation.Blind
import Codegen.Proofs.Generation.Repeats
import Codegen.Proofs.Generation.Property
import Codegen.Proofs.Model.Document
import Codegen.Proofs.Model.Reported
import Codegen.Proofs.Mixin.Registry
import Codegen.Proofs.Model.Resolution
import Codegen.Proofs.Mixin.Access
import Codegen.Proofs.Platform.Generated
import Codegen.Proofs.Settings.Store
import Codegen.Proofs.Generation.Loads
import Codegen.Proofs.CommandLine.Precedence
import Codegen.Proofs.Settings.Reset
import Codegen.Proofs.Output.Grammar
import Codegen.Proofs.Model.Reflow
import Codegen.Proofs.Model.Breaches
import Codegen.Proofs.Model.Package
import Codegen.Proofs.Mixin.Support
import Codegen.Proofs.Settings.Expansion
import Codegen.Proofs.Platform.Discovery
import Codegen.Proofs.Generation.Redirection
import Codegen.Proofs.Generation.Partials
import Codegen.Proofs.Generation.Hidden
import Codegen.Proofs.Platform.Fields
import Codegen.Proofs.Log.Suppression
import Codegen.Proofs.Generation.Calls
