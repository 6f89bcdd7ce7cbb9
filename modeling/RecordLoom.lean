import RecordLoom.Catalog.Recording
import RecordLoom.Code.Document
import RecordLoom.Code.Unit
import RecordLoom.Command.Run
import RecordLoom.Journal.State
import RecordLoom.Json.Writer
import RecordLoom.Main
import RecordLoom.Naming.Fancify
import RecordLoom.Record.Unit
import RecordLoom.Report.Overview
import RecordLoom.Report.Status
import RecordLoom.Settings.Load
import RecordLoom.Settings.Spelling
import RecordLoom.Proofs.Entity.Lookup
import RecordLoom.Proofs.Naming.Edges
import RecordLoom.Proofs.Code.Fault
import RecordLoom.Proofs.Naming.Accounting
import RecordLoom.Proofs.Naming.Ends
import RecordLoom.Proofs.Record.SoundTypes
import RecordLoom.Proofs.Record.Build
import RecordLoom.Proofs.Record.Soundness
import RecordLoom.Proofs.Record.ShortDefaults
import RecordLoom.Proofs.Record.Placeholders
import RecordLoom.Proofs.Generation.Outcome
import RecordLoom.Proofs.Naming.Dedupe
import RecordLoom.Proofs.Naming.Distinct
import RecordLoom.Proofs.Naming.Detection
import RecordLoom.Proofs.Naming.StableKeys
import RecordLoom.Proofs.Code.Ink
import RecordLoom.Proofs.Code.Layout
import RecordLoom.Proofs.Code.UnitLayout
import RecordLoom.Proofs.Casing.Spelling
import RecordLoom.Proofs.Inflection.Singular
import RecordLoom.Proofs.Naming.SettledNames
import RecordLoom.Proofs.Naming.StableNames
import RecordLoom.Proofs.Naming.AsciiNames
import RecordLoom.Proofs.Record.TypeNames
import RecordLoom.Proofs.Naming.Qualifiers
import RecordLoom.Proofs.Record.Overloads
import RecordLoom.Proofs.Catalog.Fetching
import RecordLoom.Proofs.Catalog.Source
import RecordLoom.Proofs.Inputs.Replay
import RecordLoom.Proofs.Code.Comments
import RecordLoom.Proofs.Code.QuotableComments
import RecordLoom.Proofs.Naming.HarmlessNames
import RecordLoom.Proofs.Record.Comments
import RecordLoom.Proofs.Code.WellFormed
import RecordLoom.Proofs.Code.Sections
import RecordLoom.Proofs.Catalog.Calls
import RecordLoom.Proofs.Catalog.Listing
import RecordLoom.Proofs.Inputs.Order
import RecordLoom.Proofs.Catalog.Sessions
import RecordLoom.Proofs.Inputs.Sessions
import RecordLoom.Proofs.Naming.Additions
import RecordLoom.Proofs.Naming.Suggestions
import RecordLoom.Proofs.Inputs.Checks
import RecordLoom.Proofs.Record.Positions
import RecordLoom.Proofs.Code.UnitOccurrences
import RecordLoom.Proofs.Code.References
import RecordLoom.Proofs.Record.TypeSpelling
import RecordLoom.Proofs.Code.Visibility
import RecordLoom.Proofs.Record.Visibility
import RecordLoom.Proofs.Inputs.Writing
import RecordLoom.Proofs.Command.Printing
import RecordLoom.Proofs.Command.Outcome
import RecordLoom.Proofs.Naming.Primary
import RecordLoom.Proofs.Catalog.Answers
import RecordLoom.Proofs.Record.UnnamedKeys
import RecordLoom.Proofs.Record.AssignedKeys
import RecordLoom.Proofs.Record.Conformances
import RecordLoom.Proofs.Catalog.Affinity
import RecordLoom.Proofs.Catalog.TextLiterals
import RecordLoom.Proofs.Catalog.Triggers
import RecordLoom.Proofs.Record.Capabilities
import RecordLoom.Proofs.Naming.FirstNames
import RecordLoom.Proofs.Record.Identity
import RecordLoom.Proofs.Code.StringLiterals
import RecordLoom.Proofs.Record.DefaultTypes
import RecordLoom.Proofs.Number.Integers
import RecordLoom.Proofs.Record.IntegerDefaults
import RecordLoom.Proofs.Catalog.Queries
import RecordLoom.Proofs.Catalog.Account
import RecordLoom.Proofs.Inflection.RoundTrip
import RecordLoom.Proofs.Inflection.LetterCase
import RecordLoom.Proofs.Text.LetterImages
import RecordLoom.Proofs.Casing.Foreign
import RecordLoom.Proofs.Naming.ValidNames
import RecordLoom.Proofs.Naming.ForcedKeys
import RecordLoom.Proofs.Catalog.DeclaredTypes
import RecordLoom.Proofs.Json.Members
import RecordLoom.Proofs.Json.Paths
import RecordLoom.Proofs.Settings.Merging
import RecordLoom.Proofs.Settings.StoredObjects
import RecordLoom.Proofs.Journal.Entries
import RecordLoom.Proofs.Journal.Scripts
import RecordLoom.Proofs.Journal.Suppression
import RecordLoom.Proofs.Journal.RunIds
import RecordLoom.Proofs.Casing.Repetition
import RecordLoom.Proofs.Casing.JoinedWords
import RecordLoom.Proofs.Naming.RawNames
import RecordLoom.Proofs.Naming.Suffixes
import RecordLoom.Proofs.Naming.RelationshipNames
import RecordLoom.Proofs.Record.AccessorNames
