import CheckerFixtures.Collection
import CheckerFixtures.ConfigSource
import CheckerFixtures.UserSettings
import CheckerFixtures.Json.Decode
import CheckerFixtures.Text.Quoted
import CheckerFixtures.Expectation
import CheckerFixtures.Report
import CheckerFixtures.Report.Languages
import CheckerFixtures.CommandLine
import CheckerFixtures.Notice
import CheckerFixtures.Run
import CheckerFixtures.Main
import CheckerFixtures.Proofs.Comment
import CheckerFixtures.Proofs.Attachment
import CheckerFixtures.Proofs.Table
import CheckerFixtures.Proofs.Numeral
import CheckerFixtures.Proofs.Spelling
import CheckerFixtures.Proofs.Literals
import CheckerFixtures.Proofs.IssueGrammar
import CheckerFixtures.Proofs.ClauseGrammar
import CheckerFixtures.Proofs.Merging
import CheckerFixtures.Proofs.Pieces
import CheckerFixtures.Proofs.TrailingBlanks
import CheckerFixtures.Proofs.LineEnds
import CheckerFixtures.Proofs.Streaming
import CheckerFixtures.Proofs.Writing
import CheckerFixtures.Proofs.WrittenLines
import CheckerFixtures.Proofs.RoundTrip
import CheckerFixtures.Proofs.Concatenation
import CheckerFixtures.Proofs.Bookkeeping
import CheckerFixtures.Proofs.Segments
import CheckerFixtures.Proofs.Parents
import CheckerFixtures.Proofs.Places
import CheckerFixtures.Proofs.NearestConfig
import CheckerFixtures.Proofs.PathOrder
import CheckerFixtures.Proofs.Walking
import CheckerFixtures.Proofs.Loading
import CheckerFixtures.Proofs.DirectoryFiles
import CheckerFixtures.Proofs.BuiltTrees
import CheckerFixtures.Proofs.DottedPaths
import CheckerFixtures.Proofs.AnyDirectory
import CheckerFixtures.Proofs.Effects
import CheckerFixtures.Proofs.BrokenIssues
import CheckerFixtures.Proofs.MergeAlgebra
import CheckerFixtures.Proofs.ColonGap
import CheckerFixtures.Proofs.CompactReport
import CheckerFixtures.Proofs.AddedBlanks
import CheckerFixtures.Proofs.FirstLine
import CheckerFixtures.Proofs.ByteOrder
import CheckerFixtures.Proofs.LanguageLookup
import CheckerFixtures.Proofs.Precedence
import CheckerFixtures.Proofs.ScanStates
import CheckerFixtures.Proofs.FreshPragmas
import CheckerFixtures.Proofs.UsableConfig
import CheckerFixtures.Proofs.Unambiguous
import CheckerFixtures.Proofs.ReadFixtures
import CheckerFixtures.Proofs.TextReport
import CheckerFixtures.Proofs.SplitClauses
import CheckerFixtures.Proofs.Progress
