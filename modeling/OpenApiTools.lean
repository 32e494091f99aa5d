import OpenApiTools.Main
import OpenApiTools.Proofs.Argument
import OpenApiTools.Proofs.Import
import OpenApiTools.Proofs.Lookup
import OpenApiTools.Proofs.Operation
import OpenApiTools.Proofs.Place
import OpenApiTools.Proofs.Placeholder
import OpenApiTools.Proofs.UrlPlaceholder
import OpenApiTools.Proofs.ToolName
import OpenApiTools.Proofs.Context
import OpenApiTools.Proofs.Independence
import OpenApiTools.Proofs.GeneratedName
import OpenApiTools.Proofs.Address
import OpenApiTools.Proofs.Json.Numeral
import OpenApiTools.Proofs.Json.Spelling
import OpenApiTools.Proofs.Json.Tree
import OpenApiTools.Proofs.Json.RoundTrip
import OpenApiTools.Proofs.Json.Reader
import OpenApiTools.Proofs.Yaml.Reader
import OpenApiTools.Proofs.Output
import OpenApiTools.Proofs.PrintedDocument
import OpenApiTools.Proofs.Security
import OpenApiTools.Proofs.Cli.Arguments
import OpenApiTools.Proofs.Cli.Run
import OpenApiTools.Proofs.Property
import OpenApiTools.Proofs.Requirement
import OpenApiTools.Proofs.TidyName
import OpenApiTools.Proofs.SchemaView
import OpenApiTools.Proofs.InputChange
import OpenApiTools.Proofs.ChangeHistory
import OpenApiTools.Proofs.RepeatedName
import OpenApiTools.Proofs.LetterCase
import OpenApiTools.Proofs.Digest
import OpenApiTools.Proofs.Cli.CommandLine
import OpenApiTools.Proofs.Cli.Precedence
import OpenApiTools.Proofs.Occurrence
import OpenApiTools.Proofs.Json.Record
import OpenApiTools.Proofs.Cli.Config
import OpenApiTools.Proofs.Symbol
