import NodeSchema.Main
import NodeSchema.Builders.Session
import NodeSchema.Registry.Sample
import NodeSchema.Proofs.Stages
import NodeSchema.Proofs.Value.DistinctKeys
import NodeSchema.Proofs.Validator.Reading
import NodeSchema.Proofs.Validator.Canonical
import NodeSchema.Proofs.Registry.Grammar
import NodeSchema.Proofs.Registry.Acceptance
import NodeSchema.Proofs.Json.Stopping
import NodeSchema.Proofs.Registry.Loading
import NodeSchema.Proofs.Generation
import NodeSchema.Proofs.Occurrences
import NodeSchema.Proofs.NameOrder
import NodeSchema.Proofs.Diagnostics
import NodeSchema.Proofs.AliasMap
import NodeSchema.Proofs.Unions
import NodeSchema.Proofs.Builders.Names
import NodeSchema.Proofs.Value.Reordering
import NodeSchema.Proofs.Validator.Reordering
import NodeSchema.Proofs.Registry.Reordering
import NodeSchema.Proofs.OrderIndependence
import NodeSchema.Proofs.ResolverUses
import NodeSchema.Proofs.Printing
import NodeSchema.Proofs.FieldTypes
import NodeSchema.Proofs.AddedKind
import NodeSchema.Proofs.Builders.Operations
import NodeSchema.Proofs.Builders.Histories
import NodeSchema.Proofs.Files.Path
import NodeSchema.Proofs.Files.Following
import NodeSchema.Proofs.Files.Writing
import NodeSchema.Proofs.CommandLine.Run
import NodeSchema.Proofs.Text.Characters
import NodeSchema.Proofs.Decimal.Text
import NodeSchema.Proofs.Json.Strings
import NodeSchema.Proofs.Validator.TypeGrammar
import NodeSchema.Proofs.Validator.EnumTypes
import NodeSchema.Proofs.Validator.Refusal
import NodeSchema.Proofs.Layout
import NodeSchema.Proofs.ResolverRuns
import NodeSchema.Code
import NodeSchema.Proofs.Builders.CallingConvention
import NodeSchema.Proofs.Builders.OrdinaryNames
import NodeSchema.Proofs.Builders.Shadowing
import NodeSchema.Proofs.FieldOrder
import NodeSchema.Proofs.Files.Stopped
import NodeSchema.Proofs.Builders.Parameters
