import EdmMapping.CommandLine.Arguments
import EdmMapping.CommandLine.Command
import EdmMapping.CommandLine.Run
import EdmMapping.Decimal.DoubleRange
import EdmMapping.Diagnostics
import EdmMapping.Directory
import EdmMapping.Edm.Descriptor
import EdmMapping.Edm.Json
import EdmMapping.Edm.Model
import EdmMapping.Edm.Primitive
import EdmMapping.Imports.Collector
import EdmMapping.Imports.Path
import EdmMapping.Json.Basic
import EdmMapping.Json.Pretty
import EdmMapping.Main
import EdmMapping.Manifest.Basic
import EdmMapping.Manifest.Decode
import EdmMapping.Manifest.Error
import EdmMapping.Manifest.Resolve
import EdmMapping.Mapping.Basic
import EdmMapping.Mapping.Build
import EdmMapping.Mapping.Json
import EdmMapping.ModelFile
import EdmMapping.Naming.Rename
import EdmMapping.Naming.ReservedWords
import EdmMapping.Naming.Sanitizer
import EdmMapping.OrderedMap
import EdmMapping.Proofs.CommandLine.Check
import EdmMapping.Proofs.CommandLine.Restriction
import EdmMapping.Proofs.Edm.RoundTrip
import EdmMapping.Proofs.Imports.Additions
import EdmMapping.Proofs.Imports.Merge
import EdmMapping.Proofs.Imports.Needed
import EdmMapping.Proofs.Imports.Order
import EdmMapping.Proofs.Imports.Path
import EdmMapping.Proofs.Json.Record
import EdmMapping.Proofs.Manifest.Description
import EdmMapping.Proofs.Manifest.Labels
import EdmMapping.Proofs.Manifest.ReadBack
import EdmMapping.Proofs.Manifest.References
import EdmMapping.Proofs.Manifest.Requirements
import EdmMapping.Proofs.Manifest.Sources
import EdmMapping.Proofs.Mapping.ClassNames
import EdmMapping.Proofs.Mapping.Classes
import EdmMapping.Proofs.Mapping.Identifiers
import EdmMapping.Proofs.Mapping.Imports
import EdmMapping.Proofs.Mapping.Notes
import EdmMapping.Proofs.Mapping.ReferenceTypes
import EdmMapping.Proofs.Mapping.References
import EdmMapping.Proofs.Mapping.Renames
import EdmMapping.Proofs.Naming.Clashes
import EdmMapping.Proofs.Naming.Outcome
import EdmMapping.Proofs.Naming.Renames
import EdmMapping.Proofs.Naming.SelfNaming
import EdmMapping.Proofs.Naming.Settled
import EdmMapping.Proofs.Naming.StartingOver
import EdmMapping.Proofs.Report.Check
import EdmMapping.Proofs.Report.PlainText
import EdmMapping.Proofs.Text.Capital
import EdmMapping.Proofs.Text.Names
import EdmMapping.Proofs.Text.Occurrences
import EdmMapping.Proofs.Toml.DateTime
import EdmMapping.Proofs.Toml.Document
import EdmMapping.Proofs.Toml.Number
import EdmMapping.Proofs.Toml.Quoted
import EdmMapping.Proofs.Toml.Reader
import EdmMapping.Proofs.Toml.Record
import EdmMapping.Proofs.Toml.Table
import EdmMapping.Proofs.Typing.Qualification
import EdmMapping.Proofs.Unicode.Isolated
import EdmMapping.Proofs.Unicode.Lowercase
import EdmMapping.Report.Basic
import EdmMapping.Report.Check
import EdmMapping.Report.Mapping
import EdmMapping.Source
import EdmMapping.Text.Capital
import EdmMapping.Text.Dotted
import EdmMapping.Text.Search
import EdmMapping.Toml.DateTime
import EdmMapping.Toml.Document
import EdmMapping.Toml.Number
import EdmMapping.Toml.Quoted
import EdmMapping.Toml.Reader
import EdmMapping.Toml.Record
import EdmMapping.Toml.Table
import EdmMapping.Toml.Value
import EdmMapping.Typing.JavaTypes
import EdmMapping.Typing.TypeMapper
import EdmMapping.Unicode.CaseIgnorableTable
import EdmMapping.Unicode.CaseMapping
import EdmMapping.Unicode.CasedTable
import EdmMapping.Unicode.CodeRange
import EdmMapping.Unicode.LowercaseTable
import EdmMapping.Unicode.UppercaseTable
import EdmMapping.Unicode.WhiteSpace
