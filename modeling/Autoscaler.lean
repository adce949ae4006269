import Autoscaler.Main
import Autoscaler.Proofs.Binary64.Rounding
import Autoscaler.Proofs.Json.Strings
import Autoscaler.Proofs.Json.Numbers
import Autoscaler.Proofs.Entries
import Autoscaler.Proofs.Json.Everywhere
import Autoscaler.Proofs.Json.Floats
import Autoscaler.Proofs.Json.Reading
import Autoscaler.Proofs.Json.Encoding
import Autoscaler.Proofs.Params.Decoding
import Autoscaler.Proofs.Params.Replacement
import Autoscaler.Proofs.Target
import Autoscaler.Proofs.Settings.Acceptance
import Autoscaler.Proofs.Settings.Stability
import Autoscaler.Proofs.Settings.Overrides
import Autoscaler.Proofs.Yaml.Keys
import Autoscaler.Proofs.ConfigFile
import Autoscaler.Proofs.Settings.Layers
import Autoscaler.Proofs.CommandLine.Run
import Autoscaler.Proofs.Console.Markup
import Autoscaler.Proofs.Console.Scalar
import Autoscaler.Proofs.Summary
import Autoscaler.Proofs.CommandLine.Display
import Autoscaler.Proofs.CommandLine.Loading
import Autoscaler.Proofs.CommandLine.Requests
import Autoscaler.Proofs.CommandLine.Levels
import Autoscaler.Proofs.CommandLine.Written
import Autoscaler.Proofs.CommandLine.Order
import Autoscaler.Proofs.Files
import Autoscaler.Proofs.Text.Utf8
import Autoscaler.Proofs.Log.Session
import Autoscaler.Proofs.Json.Nesting
import Autoscaler.Proofs.Params.Acceptance
import Autoscaler.Proofs.Json.Canonical
import Autoscaler.Proofs.Json.Spacing
import Autoscaler.Proofs.Params.Canonical
import Autoscaler.Proofs.Json.Values
import Autoscaler.Proofs.Params.Values
import Autoscaler.Proofs.Params.Names
import Autoscaler.Proofs.TargetReference
import Autoscaler.Proofs.Settings.Refusals
import Autoscaler.Proofs.Settings.Construction
import Autoscaler.Proofs.Json.Shared
import Autoscaler.Proofs.Json.Limits
import Autoscaler.Proofs.Yaml.Quoted
import Autoscaler.Proofs.Yaml.Scanning
import Autoscaler.Proofs.Yaml.Flow
import Autoscaler.Proofs.Yaml.Line
import Autoscaler.Proofs.Yaml.Reading
import Autoscaler.Proofs.Yaml.Graph
import Autoscaler.Proofs.Yaml.Words
import Autoscaler.Proofs.Yaml.Filling
import Autoscaler.Proofs.Text.Portions
import Autoscaler.Proofs.Yaml.Lines
import Autoscaler.Proofs.Json.Respelling
import Autoscaler.Proofs.Params.Forms
import Autoscaler.Proofs.Text.Plain
import Autoscaler.Proofs.Text.Quoted
import Autoscaler.Proofs.Params.Rendering
import Autoscaler.Proofs.Settings.FileValues
