import RuleLexer.Main
import RuleLexer.Lexer.Grammar
import RuleLexer.Lexer.Recursive
import RuleLexer.Proofs.Lexer.Reading
import RuleLexer.Proofs.Lexer.Reader
import RuleLexer.Proofs.Text.Lines
import RuleLexer.Proofs.Lexer.Primitive
import RuleLexer.Proofs.Lexer.Repetition
import RuleLexer.Proofs.Lexer.Built
import RuleLexer.Proofs.Lexer.Failure
import RuleLexer.Proofs.Lexer.Reachable
import RuleLexer.Proofs.Lexer.Line
import RuleLexer.Proofs.Pattern.Greedy
import RuleLexer.Proofs.Ini.Patterns
import RuleLexer.Proofs.Ini.Line
import RuleLexer.Proofs.Ini.LineReader
import RuleLexer.Proofs.Ini.File
import RuleLexer.Proofs.Ini.Acceptance
import RuleLexer.Proofs.Text.Trim
import RuleLexer.Proofs.Ini.LineByLine
import RuleLexer.Proofs.Ini.Fold
import RuleLexer.Proofs.Ini.Document
import RuleLexer.Proofs.Lexer.Locality
import RuleLexer.Proofs.Ini.Strips
import RuleLexer.Proofs.Ini.Continuation
import RuleLexer.Proofs.Text.Place
import RuleLexer.Proofs.Ini.Form
import RuleLexer.Proofs.Ini.Blocks
import RuleLexer.Proofs.Ini.Outline
import RuleLexer.Proofs.Ini.RoundTrip
import RuleLexer.Proofs.Lexer.Iteration
import RuleLexer.Proofs.Text.Returns
import RuleLexer.Proofs.Ini.LineEndings
import RuleLexer.Proofs.Ini.Tiling
import RuleLexer.Proofs.Lexer.Laws
import RuleLexer.Proofs.Lexer.Composition
import RuleLexer.Proofs.Pattern.Anchoring
import RuleLexer.Proofs.Pattern.Meaning
import RuleLexer.Proofs.Lexer.LineWalk
import RuleLexer.Proofs.Ini.Grouping
import RuleLexer.Proofs.Ini.Entries
import RuleLexer.Proofs.Ini.Lookup
import RuleLexer.Proofs.Lexer.Matchers
import RuleLexer.Proofs.Lexer.Confinement
import RuleLexer.Proofs.Ini.Comments
import RuleLexer.Proofs.Text.LineLookup
import RuleLexer.Proofs.Text.Position
import RuleLexer.Proofs.Lexer.AnyMatcher
import RuleLexer.Proofs.Lexer.Made
import RuleLexer.Proofs.Command.Verdict
import RuleLexer.Proofs.Text.Quoting
import RuleLexer.Proofs.Command.TokenListing
import RuleLexer.Proofs.Command.SectionListing
import RuleLexer.Proofs.Command.ReportPlace
import RuleLexer.Proofs.Command.ReportLabel
import RuleLexer.Proofs.Command.JsonText
import RuleLexer.Proofs.Command.Output
import RuleLexer.Proofs.Command.Arguments
import RuleLexer.Proofs.Text.CaseMapping
import RuleLexer.Proofs.Lexer.Keyword
import RuleLexer.Proofs.Lexer.Termination
import RuleLexer.Proofs.Text.Advance
