import Glean.Language
import Glean.Lines
import Glean.Outcome
import Glean.Path
import Glean.Proofs.EmbeddedScripts
import Glean.Proofs.Literals
import Glean.Settings
import Glean.Report.File
import Glean.Script.ImportCall
import Glean.Text.Utf8
import Glean.Markup.TagScan
import Glean.Markup.Tree
import Glean.Literals
import Glean.Log
import Glean.Markup.Document
import Glean.Markup.Fragment
import Glean.Run
import Glean.Workers
import Glean.Proofs.Schedules
import Glean.Proofs.Tallies
import Glean.Proofs.Obstacles
import Glean.Script.Fault
import Glean.Proofs.PageWalk
import Glean.Proofs.PageScripts
import Glean.Proofs.RecordLines
import Glean.Proofs.CsvReader
import Glean.Proofs.CsvReport
import Glean.Proofs.JsonReport
import Glean.Proofs.Narrowing
import Glean.Proofs.RecordInvariant
import Glean.Proofs.RecordOrder
import Glean.Proofs.ImportVisibility
import Glean.Proofs.SoundStacks
import Glean.Proofs.SoundBranches
import Glean.Proofs.SoundReductions
import Glean.Proofs.SoundRecovery
import Glean.Proofs.SoundReading
import Glean.Proofs.NodeOrder
import Glean.Proofs.FragmentOrder
import Glean.Proofs.DataRecords
import Glean.Proofs.PrintedReports
import Glean.Proofs.Listing
import Glean.Proofs.RecordPlaces
import Glean.Proofs.ImportLines
import Glean.Proofs.QuotedLiterals
import Glean.Proofs.ClassReading
import Glean.Proofs.RangeClasses
import Glean.Proofs.CodePointRanges
import Glean.Proofs.LineIndex
import Glean.Proofs.SettingSources
import Glean.Proofs.ReportPath
import Glean.Proofs.SuffixForms
import Glean.Proofs.AcceptedFiles
import Glean.Proofs.Accounting
import Glean.Proofs.TokenPlaces
import Glean.Proofs.RawLines
