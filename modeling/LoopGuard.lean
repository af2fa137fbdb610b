import LoopGuard.Json.Fault
import LoopGuard.Json.NumberReader
import LoopGuard.Json.Quote
import LoopGuard.Json.Reader
import LoopGuard.Json.Record
import LoopGuard.Json.Value
import LoopGuard.Json.ValueReader
import LoopGuard.Loop.Alias
import LoopGuard.Loop.Call
import LoopGuard.Loop.Protect
import LoopGuard.Loop.Site
import LoopGuard.Loop.Snippet
import LoopGuard.Position
import LoopGuard.Proofs.ByteOffsets
import LoopGuard.Proofs.Execution.Congruence
import LoopGuard.Proofs.Execution.Process
import LoopGuard.Proofs.Execution.Run
import LoopGuard.Proofs.Execution.Statement
import LoopGuard.Proofs.Json.Exchange
import LoopGuard.Proofs.Json.Grammar
import LoopGuard.Proofs.Json.Layout
import LoopGuard.Proofs.Json.Numbers
import LoopGuard.Proofs.Json.Objects
import LoopGuard.Proofs.Json.Reads
import LoopGuard.Proofs.Json.Skipped
import LoopGuard.Proofs.Json.Strings
import LoopGuard.Proofs.KeyText
import LoopGuard.Proofs.LineEnds
import LoopGuard.Proofs.Loop.AliasCheck
import LoopGuard.Proofs.Loop.CallsInText
import LoopGuard.Proofs.Loop.Coverage
import LoopGuard.Proofs.Loop.Erased
import LoopGuard.Proofs.Loop.Erasure
import LoopGuard.Proofs.Loop.Keys
import LoopGuard.Proofs.Loop.Made
import LoopGuard.Proofs.Loop.Order
import LoopGuard.Proofs.Loop.Pasted
import LoopGuard.Proofs.Loop.Preservation
import LoopGuard.Proofs.Loop.Quiet
import LoopGuard.Proofs.Loop.Refinement
import LoopGuard.Proofs.Loop.Rejection
import LoopGuard.Proofs.Loop.ResetBeforeGuard
import LoopGuard.Proofs.Loop.ResetText
import LoopGuard.Proofs.Loop.SourceOrder
import LoopGuard.Proofs.Loop.Stop
import LoopGuard.Proofs.Loop.TwoWalks
import LoopGuard.Proofs.Loop.Walk
import LoopGuard.Proofs.Loop.Watch
import LoopGuard.Proofs.Position
import LoopGuard.Proofs.Registry.Activation
import LoopGuard.Proofs.Registry.DurationWords
import LoopGuard.Proofs.Registry.History
import LoopGuard.Proofs.Registry.Hits
import LoopGuard.Proofs.Registry.Host
import LoopGuard.Proofs.Registry.Isolation
import LoopGuard.Proofs.Registry.Known
import LoopGuard.Proofs.Registry.ManualTime
import LoopGuard.Proofs.Registry.Replay
import LoopGuard.Proofs.Registry.Sweeping
import LoopGuard.Proofs.Sorting
import LoopGuard.Proofs.SourceMap.Composed
import LoopGuard.Proofs.SourceMap.Decoded
import LoopGuard.Proofs.SourceMap.Lookup
import LoopGuard.Proofs.SourceMap.SourceLines
import LoopGuard.Proofs.Syntax.Lexer.Bare
import LoopGuard.Proofs.Syntax.Lexer.Literals
import LoopGuard.Proofs.Syntax.Lexer.Names
import LoopGuard.Proofs.Syntax.Lexer.Scan
import LoopGuard.Proofs.Syntax.Lexer.Spelled
import LoopGuard.Proofs.Syntax.Parser.Carries
import LoopGuard.Proofs.Syntax.Parser.Expression
import LoopGuard.Proofs.Syntax.Parser.FlawedText
import LoopGuard.Proofs.Syntax.Parser.Flaws
import LoopGuard.Proofs.Syntax.Parser.Function
import LoopGuard.Proofs.Syntax.Parser.Member
import LoopGuard.Proofs.Syntax.Parser.Module
import LoopGuard.Proofs.Syntax.Parser.Moves
import LoopGuard.Proofs.Syntax.Parser.Operands
import LoopGuard.Proofs.Syntax.Parser.Pattern
import LoopGuard.Proofs.Syntax.Parser.Phrases
import LoopGuard.Proofs.Syntax.Parser.Reads
import LoopGuard.Proofs.Syntax.Parser.Returns
import LoopGuard.Proofs.Syntax.Parser.Statement
import LoopGuard.Proofs.Syntax.Parts
import LoopGuard.Proofs.Syntax.Printer.Layout
import LoopGuard.Proofs.Syntax.Printer.Node
import LoopGuard.Proofs.Syntax.Printer.Writer
import LoopGuard.Proofs.Syntax.TextOrder
import LoopGuard.Proofs.Syntax.Written
import LoopGuard.Registry.Clock
import LoopGuard.Registry.Counters
import LoopGuard.Registry.Duration
import LoopGuard.Registry.Limits
import LoopGuard.Registry.Session
import LoopGuard.ResetOptions
import LoopGuard.Sorting
import LoopGuard.SourceMap.Basic
import LoopGuard.SourceMap.Compose
import LoopGuard.SourceMap.DebugId
import LoopGuard.SourceMap.Digits
import LoopGuard.SourceMap.Mappings
import LoopGuard.SourceMap.Printed
import LoopGuard.SourceMap.Read
import LoopGuard.SourceMap.Write
import LoopGuard.Syntax.Comment
import LoopGuard.Syntax.Context
import LoopGuard.Syntax.Fault
import LoopGuard.Syntax.Lexer.Basic
import LoopGuard.Syntax.Lexer.Comments
import LoopGuard.Syntax.Lexer.Literal
import LoopGuard.Syntax.Lexer.Next
import LoopGuard.Syntax.Parse
import LoopGuard.Syntax.Parser.Basic
import LoopGuard.Syntax.Parser.Expression
import LoopGuard.Syntax.Parser.Function
import LoopGuard.Syntax.Parser.Grammar
import LoopGuard.Syntax.Parser.Member
import LoopGuard.Syntax.Parser.Module
import LoopGuard.Syntax.Parser.Pattern
import LoopGuard.Syntax.Parser.Statement
import LoopGuard.Syntax.Printer.Layout
import LoopGuard.Syntax.Printer.Module
import LoopGuard.Syntax.Printer.Node
import LoopGuard.Syntax.Printer.Writer
import LoopGuard.Syntax.Span
import LoopGuard.Syntax.Token
import LoopGuard.Syntax.Tree
import LoopGuard.Syntax.Unplaced
import LoopGuard.Text.Alphabetic
import LoopGuard.Text.Blank
import LoopGuard.Text.CharSet
import LoopGuard.Text.Identifier
import LoopGuard.Text.NumberText
import LoopGuard.Text.Printable
import LoopGuard.Text.Quoted
import LoopGuard.Text.Shortest
import LoopGuard.Transform
