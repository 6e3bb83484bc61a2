import Omci.Action
import Omci.Action.Reading
import Omci.Ascending
import Omci.Assembly
import Omci.Attribute
import Omci.Attribute.Reading
import Omci.AttributeList
import Omci.Augmentation
import Omci.Base64
import Omci.Binary64
import Omci.Binary64.Shortest
import Omci.Catalog
import Omci.Census
import Omci.ClassTable
import Omci.Classification
import Omci.CommandLine.Clock
import Omci.CommandLine.Directory
import Omci.CommandLine.Files
import Omci.CommandLine.Path
import Omci.CommandLine.Run
import Omci.CommandLine.Usage
import Omci.Correction
import Omci.Correction.Known
import Omci.Document
import Omci.Entity
import Omci.Extraction
import Omci.Hints
import Omci.Identifiers
import Omci.Inference
import Omci.Json.Basic
import Omci.Json.Number
import Omci.Json.Printer
import Omci.Json.Reader
import Omci.Json.Value
import Omci.Main
import Omci.Notification
import Omci.Notification.Alarms
import Omci.Notification.ValueChanges
import Omci.Phase
import Omci.Proofs.Action.Lists
import Omci.Proofs.Action.Reading
import Omci.Proofs.Ascending
import Omci.Proofs.Assembly
import Omci.Proofs.Assembly.Sections
import Omci.Proofs.Attribute.Accesses
import Omci.Proofs.Attribute.Names
import Omci.Proofs.Attribute.Reading
import Omci.Proofs.Attribute.Restating
import Omci.Proofs.Attribute.Settings
import Omci.Proofs.AttributeList
import Omci.Proofs.AttributeList.Runs
import Omci.Proofs.Augmentation
import Omci.Proofs.Augmentation.Gaps
import Omci.Proofs.Augmentation.Suggestions
import Omci.Proofs.Base64
import Omci.Proofs.Catalog
import Omci.Proofs.ClassTable
import Omci.Proofs.ClassTable.Supplement
import Omci.Proofs.Classification
import Omci.Proofs.CommandLine.ReadBack
import Omci.Proofs.CommandLine.Selection
import Omci.Proofs.CommandLine.Verification
import Omci.Proofs.Constraint
import Omci.Proofs.Correction.Copies
import Omci.Proofs.Correction.Demands
import Omci.Proofs.Correction.Flags
import Omci.Proofs.Correction.Identifier
import Omci.Proofs.Correction.InPlace
import Omci.Proofs.Correction.Labels
import Omci.Proofs.Correction.Locality
import Omci.Proofs.Correction.OneClass
import Omci.Proofs.Correction.Order
import Omci.Proofs.Correction.Places
import Omci.Proofs.Correction.Repetition
import Omci.Proofs.Correction.Shapes
import Omci.Proofs.Correction.Step
import Omci.Proofs.Correction.Tables
import Omci.Proofs.Correction.Targets
import Omci.Proofs.Extraction.Canonical
import Omci.Proofs.Extraction.Ending
import Omci.Proofs.Extraction.Flags
import Omci.Proofs.Extraction.Growth
import Omci.Proofs.Extraction.Phases
import Omci.Proofs.Extraction.Step
import Omci.Proofs.Extraction.Tables
import Omci.Proofs.FirstMatch
import Omci.Proofs.Hints
import Omci.Proofs.Identifier
import Omci.Proofs.Identifiers
import Omci.Proofs.Json.Nesting
import Omci.Proofs.Json.Printer
import Omci.Proofs.Json.Value
import Omci.Proofs.Notification.Alarms
import Omci.Proofs.Notification.BlankRows
import Omci.Proofs.Notification.Changes
import Omci.Proofs.Notification.Numbers
import Omci.Proofs.Notification.Repair
import Omci.Proofs.Notification.Rows
import Omci.Proofs.Notification.Tables
import Omci.Proofs.Notification.ValueChanges
import Omci.Proofs.Numbering
import Omci.Proofs.Savable
import Omci.Proofs.Saved.Attribute
import Omci.Proofs.Saved.Basic
import Omci.Proofs.Saved.Entity
import Omci.Proofs.Saved.Reading
import Omci.Proofs.Size.Reading
import Omci.Proofs.Size.Spellings
import Omci.Proofs.Table.Reflow
import Omci.Proofs.Table.Repeated
import Omci.Proofs.Table.Stream
import Omci.Proofs.Text.Ascii
import Omci.Proofs.Text.Blank
import Omci.Proofs.Text.CaseTable
import Omci.Proofs.Text.Casing
import Omci.Proofs.Text.Groups
import Omci.Proofs.Text.Integer
import Omci.Proofs.Text.Numeral
import Omci.Proofs.Text.Parens
import Omci.Proofs.Text.Search
import Omci.Proofs.Text.Spelled
import Omci.Proofs.Text.Title
import Omci.Proofs.Validation
import Omci.Saved.Attribute
import Omci.Saved.Basic
import Omci.Saved.Catalog
import Omci.Saved.Document
import Omci.Saved.Entity
import Omci.Saved.Hints
import Omci.Saved.Summary
import Omci.Sha256
import Omci.Size
import Omci.Size.Reading
import Omci.Table.Reflow
import Omci.Text.Ascii
import Omci.Text.Blank
import Omci.Text.CaseTable
import Omci.Text.Casing
import Omci.Text.Letter
import Omci.Text.Numeral
import Omci.Text.Parens
import Omci.Text.Property
import Omci.Text.Search
import Omci.Text.Title
import Omci.Validation
import Omci.Version
