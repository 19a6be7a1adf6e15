import CatalogViews.Text.Uppercase
import CatalogViews.Text.Blank
import CatalogViews.Number.Shortest
import CatalogViews.Number.Reading
import CatalogViews.Types.Reading
import CatalogViews.Value.Order
import CatalogViews.Names.CaseMode
import CatalogViews.Names.Collation
import CatalogViews.Names.LikePattern
import CatalogViews.Catalog.Operation
import CatalogViews.Catalog.Lookup
import CatalogViews.Catalog.Schema
import CatalogViews.Metadata.Tables
import CatalogViews.Metadata.PrimaryKeys
import CatalogViews.Metadata.ForeignKeys
import CatalogViews.Metadata.Indexes
import CatalogViews.Metadata.TypeInfo
import CatalogViews.Metadata.Statements
import CatalogViews.Render.Format
import CatalogViews.CommandLine.Command
import CatalogViews.CommandLine.Configuration
import CatalogViews.CommandLine.Run
import CatalogViews.Main
import CatalogViews.Proofs.PatternLanguage
import CatalogViews.Proofs.TableIntegrity
import CatalogViews.Proofs.ForeignKeyAgreement
import CatalogViews.Proofs.ReportedOnce
import CatalogViews.Proofs.TableListing
import CatalogViews.Proofs.EnumerationOrder
import CatalogViews.Proofs.QuotedNames
import CatalogViews.Proofs.SynonymTransparency
import CatalogViews.Proofs.ColumnListing
import CatalogViews.Proofs.TablePlaces
import CatalogViews.Proofs.ReferencedKeys
import CatalogViews.Proofs.MainSchema
import CatalogViews.Proofs.Spellings
import CatalogViews.Proofs.TableUpdates
import CatalogViews.Proofs.CatalogContents
import CatalogViews.Proofs.ScriptRuns
import CatalogViews.Proofs.ScriptParts
import CatalogViews.Proofs.DocumentOrder
import CatalogViews.Proofs.Removal
import CatalogViews.Proofs.ReferencedColumns
import CatalogViews.Proofs.FoundTables
import CatalogViews.Proofs.ViewFailures
import CatalogViews.Proofs.SchemaOrder
import CatalogViews.Proofs.Restrictions
import CatalogViews.Proofs.ListedLookup
import CatalogViews.Proofs.IndexListing
import CatalogViews.Proofs.KeyListing
import CatalogViews.Proofs.ListedNames
import CatalogViews.Proofs.TableDescriptions
import CatalogViews.Proofs.FixtureContents
import CatalogViews.Proofs.KnownActions
import CatalogViews.Proofs.IndexDirections
import CatalogViews.Proofs.ReportedSizes
import CatalogViews.Proofs.TextCuts
import CatalogViews.Proofs.TypeGrammar
import CatalogViews.Proofs.TypeTexts
import CatalogViews.Proofs.SortedRows
import CatalogViews.Proofs.CsvReading
import CatalogViews.Proofs.NameOrder
import CatalogViews.Proofs.TypedAnswers
