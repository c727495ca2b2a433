import ErdSql.Text.Blank
import ErdSql.Text.Split
import ErdSql.Text.Digit
import ErdSql.Text.Lowercase
import ErdSql.Text.Quoted
import ErdSql.Text.Utf8
import ErdSql.Decimal.Notation
import ErdSql.Decimal.Numeral
import ErdSql.Json.Printer
import ErdSql.Json.Reader
import ErdSql.Model.Index
import ErdSql.Model.Document
import ErdSql.Naming.Resolve
import ErdSql.Sql.Literal
import ErdSql.Sql.DataType
import ErdSql.Sql.Script
import ErdSql.Options.Reading
import ErdSql.Log.Record
import ErdSql.Log.Clock
import ErdSql.Table.Layout
import ErdSql.Step
import ErdSql.Storage.Fault
import ErdSql.Storage.Path
import ErdSql.Storage.Tree
import ErdSql.Storage.Sink
import ErdSql.Generation.Plan
import ErdSql.Generation.Artifact
import ErdSql.Generation.Database
import ErdSql.Generation.Schemas
import ErdSql.Generation.Run
import ErdSql.Cli.Program
import ErdSql.Main
import ErdSql.Proofs.Plans
import ErdSql.Proofs.Groups
import ErdSql.Proofs.ScriptText
import ErdSql.Proofs.TableEdits
import ErdSql.Proofs.References
import ErdSql.Proofs.Artifacts
import ErdSql.Proofs.Manifest
import ErdSql.Proofs.FailingSinks
import ErdSql.Proofs.Paths
import ErdSql.Proofs.Placements
import ErdSql.Proofs.ForeignKeys
import ErdSql.Proofs.Alignment
import ErdSql.Proofs.ForeignKeyChoice
import ErdSql.Proofs.ForeignKeyFiles
import ErdSql.Proofs.BareTrees
import ErdSql.Proofs.Identifiers
import ErdSql.Proofs.Agreement
import ErdSql.Proofs.Assignments
import ErdSql.Proofs.Retagging
import ErdSql.Proofs.ReliableRuns
import ErdSql.Proofs.Regeneration
import ErdSql.Proofs.Deletion
import ErdSql.Proofs.Referents
import ErdSql.Proofs.SparedElements
import ErdSql.Proofs.TableBlocks
import ErdSql.Proofs.Mirrors
import ErdSql.Proofs.RunSequences
import ErdSql.Proofs.QuotingStatements
import ErdSql.Proofs.Outcomes
import ErdSql.Proofs.Inventory
import ErdSql.Proofs.Rearrangements
import ErdSql.Proofs.OrderIndependence
import ErdSql.Proofs.LiteralReading
import ErdSql.Proofs.SoundScripts
import ErdSql.Proofs.Quotations
import ErdSql.Proofs.QuotedTexts
import ErdSql.Proofs.Fidelity
import ErdSql.Proofs.Pieces
import ErdSql.Proofs.Places
import ErdSql.Proofs.Confinement
import ErdSql.Proofs.HandedScripts
import ErdSql.Proofs.RawTexts
import ErdSql.Proofs.Headings
import ErdSql.Proofs.Indentation
import ErdSql.Proofs.OpaqueTexts
import ErdSql.Proofs.TypeNames
import ErdSql.Proofs.DropChoice
import ErdSql.Proofs.Notices
import ErdSql.Proofs.SchemaCoverage
import ErdSql.Proofs.Overrides
import ErdSql.Proofs.Addresses
import ErdSql.Proofs.Registration
import ErdSql.Proofs.Ascents
import ErdSql.Proofs.Consistency
import ErdSql.Proofs.ExitStatus
import ErdSql.Proofs.TableScripts
import ErdSql.Proofs.ReferenceOutcomes
import ErdSql.Proofs.Defaults
import ErdSql.Proofs.SerialColumns
import ErdSql.Proofs.FirstOccurrences
import ErdSql.Proofs.NumberOrder
import ErdSql.Proofs.UserIndexes
import ErdSql.Proofs.TrimmedLines
import ErdSql.Proofs.SeedRows
import ErdSql.Proofs.LifeCycles
import ErdSql.Proofs.OptionChoices
import ErdSql.Proofs.EnvironmentChoices
import ErdSql.Proofs.EnumLabels
import ErdSql.Proofs.ScriptWriting
import ErdSql.Proofs.ContextStack
import ErdSql.Proofs.NestedRuns
import ErdSql.Proofs.LogRecords
import ErdSql.Proofs.LogScopes
