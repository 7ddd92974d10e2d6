import NestedShell.Aliases
import NestedShell.Command
import NestedShell.CommandLine
import NestedShell.Completion
import NestedShell.Context
import NestedShell.Environment
import NestedShell.Failure
import NestedShell.Host
import NestedShell.Host.Binary
import NestedShell.Host.Conversion
import NestedShell.Host.Echo
import NestedShell.Host.Escape
import NestedShell.Host.Files
import NestedShell.Host.Numeral
import NestedShell.Host.Printf
import NestedShell.Host.Printf.Script
import NestedShell.Host.Printf.Utility
import NestedShell.Host.Quoting
import NestedShell.Host.Script.Builtin
import NestedShell.Host.Script.Builtin.Aliases
import NestedShell.Host.Script.Builtin.Directory
import NestedShell.Host.Script.Builtin.Limits
import NestedShell.Host.Script.Builtin.Read
import NestedShell.Host.Script.Builtin.Signals
import NestedShell.Host.Script.Builtin.Test
import NestedShell.Host.Script.Builtin.Text
import NestedShell.Host.Script.Builtin.Variables
import NestedShell.Host.Script.Expand
import NestedShell.Host.Script.Fields
import NestedShell.Host.Script.Lookup
import NestedShell.Host.Script.Pattern
import NestedShell.Host.Script.Process
import NestedShell.Host.Script.Quotes
import NestedShell.Host.Script.Reader
import NestedShell.Host.Script.Redirection
import NestedShell.Host.Script.Run
import NestedShell.Host.Script.Shell
import NestedShell.Host.Script.Source
import NestedShell.Host.Script.Start
import NestedShell.Host.Script.Sum
import NestedShell.Host.Script.Syntax
import NestedShell.Host.Script.World
import NestedShell.Host.Small
import NestedShell.Host.Written
import NestedShell.Lexer
import NestedShell.Lexer.Grammar
import NestedShell.Lexer.Quote
import NestedShell.Machine
import NestedShell.Machine.Report
import NestedShell.Main
import NestedShell.Options
import NestedShell.Ordered
import NestedShell.Prompt
import NestedShell.Proofs.Aliases.Expansion
import NestedShell.Proofs.Aliases.History
import NestedShell.Proofs.Aliases.Listing
import NestedShell.Proofs.Aliases.Spelling
import NestedShell.Proofs.Completion
import NestedShell.Proofs.Context.Record
import NestedShell.Proofs.Context.Reserved
import NestedShell.Proofs.Context.Shorthand
import NestedShell.Proofs.Lexer.Agreement
import NestedShell.Proofs.Lexer.Descent
import NestedShell.Proofs.Lexer.Expansion
import NestedShell.Proofs.Lexer.Frame
import NestedShell.Proofs.Lexer.Invariant
import NestedShell.Proofs.Lexer.Memory
import NestedShell.Proofs.Lexer.Misread
import NestedShell.Proofs.Lexer.Opacity
import NestedShell.Proofs.Lexer.Reference
import NestedShell.Proofs.Lexer.Requote
import NestedShell.Proofs.Lexer.Split
import NestedShell.Proofs.Lexer.Turn
import NestedShell.Proofs.Lexer.Verbatim
import NestedShell.Proofs.Machine.Rules
import NestedShell.Proofs.Machine.Turns
import NestedShell.Proofs.Options
import NestedShell.Proofs.Ordered
import NestedShell.Proofs.Prompt.Pieces
import NestedShell.Proofs.Prompt.Rules
import NestedShell.Proofs.Registry.Effects
import NestedShell.Proofs.Registry.History
import NestedShell.Proofs.Registry.Listing
import NestedShell.Proofs.Session.Abandon
import NestedShell.Proofs.Session.Deeds
import NestedShell.Proofs.Session.Delivery
import NestedShell.Proofs.Session.Dialogue
import NestedShell.Proofs.Session.Exchanges
import NestedShell.Proofs.Session.Level
import NestedShell.Proofs.Session.Nesting
import NestedShell.Proofs.Session.Reach
import NestedShell.Proofs.Session.Requests
import NestedShell.Proofs.Session.Typed
import NestedShell.Proofs.Standard.Exported
import NestedShell.Proofs.Standard.Variables
import NestedShell.Proofs.Text.Blank
import NestedShell.Proofs.Text.Decimal
import NestedShell.Proofs.Text.Lines
import NestedShell.Proofs.Text.Sorted
import NestedShell.Proofs.Text.Utf8
import NestedShell.Proofs.Value
import NestedShell.Proofs.Variables.Pieces
import NestedShell.Session
import NestedShell.Session.Dialogue
import NestedShell.Session.Script
import NestedShell.Standard
import NestedShell.Standard.Aliases
import NestedShell.Standard.General
import NestedShell.Standard.Programs
import NestedShell.Standard.Variables
import NestedShell.Text.Blank
import NestedShell.Text.Cluster
import NestedShell.Text.Cluster.Kind
import NestedShell.Text.Columns
import NestedShell.Text.Combining
import NestedShell.Text.Decimal
import NestedShell.Text.Lines
import NestedShell.Text.Octets
import NestedShell.Text.Printable
import NestedShell.Text.Quoted
import NestedShell.Text.Sorted
import NestedShell.Text.Typed
import NestedShell.Text.Utf8
import NestedShell.Transcript
import NestedShell.Value
import NestedShell.Variables
