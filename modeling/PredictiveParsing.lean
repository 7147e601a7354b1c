import PredictiveParsing.CommandLine
import PredictiveParsing.Journal
import PredictiveParsing.Main
import PredictiveParsing.Proofs.FollowExact
import PredictiveParsing.Proofs.Parser.Endless
import PredictiveParsing.Proofs.Parser.Work
import PredictiveParsing.Proofs.Parser.Failures
import PredictiveParsing.Proofs.Parser.LeftRecursion
import PredictiveParsing.Proofs.Parser.ValidPrefix
import PredictiveParsing.Proofs.Parser.Vanishing
import PredictiveParsing.Proofs.Parser.EndMarker
import PredictiveParsing.Proofs.Parser.LexedText
import PredictiveParsing.Proofs.Parser.Renumbering
import PredictiveParsing.Proofs.Unambiguous
import PredictiveParsing.Proofs.Growth
import PredictiveParsing.Proofs.Registry
import PredictiveParsing.Proofs.ReadingBack
import PredictiveParsing.Proofs.Tiling
import PredictiveParsing.Proofs.Lines
import PredictiveParsing.Proofs.Claimants
import PredictiveParsing.Proofs.Clash
import PredictiveParsing.Proofs.Greedy
import PredictiveParsing.Proofs.LineForms
import PredictiveParsing.Proofs.Layout
import PredictiveParsing.Proofs.Loading
import PredictiveParsing.Proofs.Parser.Transcript
import PredictiveParsing.Proofs.Parser.History
import PredictiveParsing.Proofs.Parser.Rejections
import PredictiveParsing.Proofs.Positions
import PredictiveParsing.Proofs.CommandLine
import PredictiveParsing.Proofs.Concatenation
