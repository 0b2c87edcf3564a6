import SurveyExport.Calendar.Date
import SurveyExport.Calendar.Reading
import SurveyExport.Cell
import SurveyExport.Codebook.Basic
import SurveyExport.Codebook.Section
import SurveyExport.Codebook.Title
import SurveyExport.Command.Arguments
import SurveyExport.Command.Grammar
import SurveyExport.Command.Run
import SurveyExport.Command.Surroundings
import SurveyExport.Command.Table
import SurveyExport.Command.Wrapping
import SurveyExport.Csv
import SurveyExport.Decimal.Binary64
import SurveyExport.Decimal.Numeral
import SurveyExport.Decimal.Shortest
import SurveyExport.Entries
import SurveyExport.Export.Run
import SurveyExport.Export.Steps
import SurveyExport.Form.Basic
import SurveyExport.Form.Label
import SurveyExport.Form.NativeJson
import SurveyExport.Form.Question
import SurveyExport.Form.Survey
import SurveyExport.Json.Fields
import SurveyExport.Json.Reader
import SurveyExport.Json.Token
import SurveyExport.Json.Value
import SurveyExport.Json.Writer
import SurveyExport.KeyEscape
import SurveyExport.KeyMap
import SurveyExport.Linkage
import SurveyExport.Main
import SurveyExport.Options.Basic
import SurveyExport.Options.Json
import SurveyExport.Options.Toml
import SurveyExport.Proofs.Calendar.Reading
import SurveyExport.Proofs.Codebook.Acceptance
import SurveyExport.Proofs.Codebook.Check
import SurveyExport.Proofs.Codebook.ChoiceLists
import SurveyExport.Proofs.Codebook.ColumnKeys
import SurveyExport.Proofs.Codebook.Columns
import SurveyExport.Proofs.Codebook.Partition
import SurveyExport.Proofs.Csv.Reading
import SurveyExport.Proofs.Decimal.Bits
import SurveyExport.Proofs.Decimal.Decimals
import SurveyExport.Proofs.Decimal.Exact
import SurveyExport.Proofs.Decimal.Grammar
import SurveyExport.Proofs.Decimal.Nearest
import SurveyExport.Proofs.Decimal.Numerals
import SurveyExport.Proofs.Decimal.Rounding
import SurveyExport.Proofs.Export.Calls
import SurveyExport.Proofs.Export.Integrity
import SurveyExport.Proofs.Export.Presentation
import SurveyExport.Proofs.Export.Protocol
import SurveyExport.Proofs.Export.RootSheet
import SurveyExport.Proofs.Export.StoredKeys
import SurveyExport.Proofs.Export.Traces
import SurveyExport.Proofs.Export.Writes
import SurveyExport.Proofs.Form.Elements
import SurveyExport.Proofs.Form.Languages
import SurveyExport.Proofs.Form.NativeJson
import SurveyExport.Proofs.Form.Paths
import SurveyExport.Proofs.Form.Tree
import SurveyExport.Proofs.Json.Fields
import SurveyExport.Proofs.Json.Spelling
import SurveyExport.Proofs.Json.Tokens
import SurveyExport.Proofs.Json.Writing
import SurveyExport.Proofs.KeyEscape.Codec
import SurveyExport.Proofs.KeyMap
import SurveyExport.Proofs.Linkage.Links
import SurveyExport.Proofs.Linkage.Numbering
import SurveyExport.Proofs.Linkage.Preorder
import SurveyExport.Proofs.Linkage.Visits
import SurveyExport.Proofs.Row.Answers
import SurveyExport.Proofs.Row.Chosen
import SurveyExport.Proofs.Row.Frame
import SurveyExport.Proofs.Row.Numbers
import SurveyExport.Proofs.Row.References
import SurveyExport.Proofs.Row.Reimport
import SurveyExport.Proofs.Row.Restored
import SurveyExport.Proofs.Row.Splitting
import SurveyExport.Proofs.Row.Substitution
import SurveyExport.Proofs.Row.Unsplit
import SurveyExport.Proofs.Row.Values
import SurveyExport.Proofs.Sheet.Names
import SurveyExport.Proofs.Sheet.Worksheets
import SurveyExport.Proofs.Submission.Layouts
import SurveyExport.Proofs.Submission.Lines
import SurveyExport.Proofs.Submission.Media
import SurveyExport.Proofs.Submission.Nesting
import SurveyExport.Proofs.Submission.Places
import SurveyExport.Proofs.Submission.Stored
import SurveyExport.Proofs.SystemFile.Begin
import SurveyExport.Proofs.SystemFile.Cases
import SurveyExport.Proofs.SystemFile.Choices
import SurveyExport.Proofs.SystemFile.Decoding
import SurveyExport.Proofs.SystemFile.Fields
import SurveyExport.Proofs.SystemFile.Kinds
import SurveyExport.Proofs.SystemFile.LongNames
import SurveyExport.Proofs.SystemFile.Naming
import SurveyExport.Proofs.SystemFile.NumericNames
import SurveyExport.Proofs.SystemFile.Pool
import SurveyExport.Proofs.SystemFile.Refusals
import SurveyExport.Proofs.SystemFile.ShortNames
import SurveyExport.Proofs.SystemFile.RowCase
import SurveyExport.Proofs.SystemFile.Walk
import SurveyExport.Proofs.Target.Archives
import SurveyExport.Proofs.Target.Tables
import SurveyExport.Proofs.Text.Blank
import SurveyExport.Proofs.Text.Boundary
import SurveyExport.Proofs.Text.Bytes
import SurveyExport.Proofs.Text.Cut
import SurveyExport.Proofs.Text.Fresh
import SurveyExport.Proofs.WideTable.Cells
import SurveyExport.Proofs.WideTable.Distinct
import SurveyExport.Proofs.WideTable.Entries
import SurveyExport.Proofs.WideTable.Growth
import SurveyExport.Proofs.WideTable.Headers
import SurveyExport.Proofs.WideTable.Keys
import SurveyExport.Proofs.WideTable.Level
import SurveyExport.Proofs.WideTable.Lossless
import SurveyExport.Proofs.WideTable.Names
import SurveyExport.Proofs.WideTable.Readings
import SurveyExport.Proofs.WideTable.Slots
import SurveyExport.Proofs.WideTable.Spreads
import SurveyExport.Proofs.WideTable.Stored
import SurveyExport.Proofs.WideTable.Texts
import SurveyExport.Proofs.WideTable.Trails
import SurveyExport.Row.Coercion
import SurveyExport.Row.Normal
import SurveyExport.Row.References
import SurveyExport.Row.Splitting
import SurveyExport.Sheet.Layout
import SurveyExport.Sheet.Naming
import SurveyExport.Submission.Basic
import SurveyExport.Submission.DataFile
import SurveyExport.Submission.Media
import SurveyExport.Submission.Reading
import SurveyExport.SystemFile.Basic
import SurveyExport.SystemFile.Bytes
import SurveyExport.SystemFile.Columns
import SurveyExport.SystemFile.Dictionary
import SurveyExport.SystemFile.Draft
import SurveyExport.SystemFile.Header
import SurveyExport.SystemFile.Names
import SurveyExport.Target.Archive
import SurveyExport.Target.Build
import SurveyExport.Target.Checksum
import SurveyExport.Target.Destination
import SurveyExport.Target.File
import SurveyExport.Target.Format
import SurveyExport.Target.Sheets
import SurveyExport.Target.Zip
import SurveyExport.Text.Blank
import SurveyExport.Text.CaseTable
import SurveyExport.Text.Cluster
import SurveyExport.Text.ClusterTable
import SurveyExport.Text.EmojiTable
import SurveyExport.Text.Fresh
import SurveyExport.Text.Lowercase
import SurveyExport.Text.PrintTable
import SurveyExport.Text.Quoted
import SurveyExport.Text.Search
import SurveyExport.Text.Styled
import SurveyExport.Text.Utf8
import SurveyExport.Text.Width
import SurveyExport.Text.WidthTable
import SurveyExport.Text.Word
import SurveyExport.Text.WordTable
import SurveyExport.Toml.Reader
import SurveyExport.Toml.Value
import SurveyExport.WideTable.Basic
import SurveyExport.WideTable.Group
import SurveyExport.WideTable.Spread
import SurveyExport.Workbook.Basic
import SurveyExport.Workbook.Parts
