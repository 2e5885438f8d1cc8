import DomainRules.Choice
import DomainRules.CommandLine.Help
import DomainRules.CommandLine.Invocation
import DomainRules.CommandLine.Reading
import DomainRules.Config
import DomainRules.Diagnostic
import DomainRules.Failure
import DomainRules.Gap
import DomainRules.Json.Choice
import DomainRules.Json.Fault
import DomainRules.Json.Numeral
import DomainRules.Json.Payload
import DomainRules.Json.Quoted
import DomainRules.Json.Reader
import DomainRules.Json.Value
import DomainRules.Json.Writer
import DomainRules.Logged
import DomainRules.Main
import DomainRules.MetaDomain
import DomainRules.Number.Binary64
import DomainRules.Number.Digits
import DomainRules.Output.Format
import DomainRules.Output.Framing
import DomainRules.Output.Writer
import DomainRules.Policy
import DomainRules.Program
import DomainRules.Proofs.Choice
import DomainRules.Proofs.Collector
import DomainRules.Proofs.CommandLine.Order
import DomainRules.Proofs.Config.Reading
import DomainRules.Proofs.Config.Setting
import DomainRules.Proofs.Config.Usual
import DomainRules.Proofs.Diagnostic
import DomainRules.Proofs.Failure
import DomainRules.Proofs.Json.Delivery
import DomainRules.Proofs.Json.Payload
import DomainRules.Proofs.Json.Quoted
import DomainRules.Proofs.Json.WellFormed
import DomainRules.Proofs.Logged
import DomainRules.Proofs.MetaDomain.Cleaning
import DomainRules.Proofs.MetaDomain.Conversion
import DomainRules.Proofs.MetaDomain.Coverage
import DomainRules.Proofs.MetaDomain.EmptyFields
import DomainRules.Proofs.MetaDomain.Fields
import DomainRules.Proofs.MetaDomain.Framing
import DomainRules.Proofs.MetaDomain.Lines
import DomainRules.Proofs.MetaDomain.Lossless
import DomainRules.Proofs.MetaDomain.Rejection
import DomainRules.Proofs.MetaDomain.Remarks
import DomainRules.Proofs.MetaDomain.Strictness
import DomainRules.Proofs.MetaDomain.Suffix
import DomainRules.Proofs.MetaDomain.Truncation
import DomainRules.Proofs.Output.Writer
import DomainRules.Proofs.Policy
import DomainRules.Proofs.Program.Export
import DomainRules.Proofs.Program.Independence
import DomainRules.Proofs.Program.Init
import DomainRules.Proofs.Program.Run
import DomainRules.Proofs.Program.Session
import DomainRules.Proofs.Registry.Bindings
import DomainRules.Proofs.Registry.History
import DomainRules.Proofs.Registry.Order
import DomainRules.Proofs.Rule.Decoding
import DomainRules.Proofs.Rule.Delivery
import DomainRules.Proofs.Rule.Document
import DomainRules.Proofs.Rule.History
import DomainRules.Proofs.Rule.Item
import DomainRules.Proofs.Rule.Writing
import DomainRules.Proofs.Success
import DomainRules.Proofs.Text.Utf8
import DomainRules.Proofs.Toml.Document
import DomainRules.Proofs.Toml.Reader
import DomainRules.Proofs.Toml.Table
import DomainRules.Proofs.Workspace
import DomainRules.Proofs.Workspace.Route
import DomainRules.Proofs.Yaml.Payload
import DomainRules.Proofs.Yaml.Scalar
import DomainRules.Registry
import DomainRules.Rule.Document
import DomainRules.Rule.Item
import DomainRules.Rule.Kind
import DomainRules.Shape
import DomainRules.Text.Quoted
import DomainRules.Text.Unprintable
import DomainRules.Text.Utf8
import DomainRules.Toml.Document
import DomainRules.Toml.Fault
import DomainRules.Toml.Item
import DomainRules.Toml.Moment
import DomainRules.Toml.Numeral
import DomainRules.Toml.Reader
import DomainRules.Toml.Report
import DomainRules.Toml.Text
import DomainRules.Workspace
import DomainRules.Yaml.Ambiguous
import DomainRules.Yaml.Payload
import DomainRules.Yaml.Scalar
