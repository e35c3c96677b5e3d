import DocExamples.Command.Options
import DocExamples.Command.Read
import DocExamples.Command.Run
import DocExamples.Command.Switch
import DocExamples.Config.Basic
import DocExamples.Config.Build
import DocExamples.Config.Error
import DocExamples.Config.Finished
import DocExamples.Config.Load
import DocExamples.Config.Settings
import DocExamples.Console.Line
import DocExamples.Data.Basic
import DocExamples.Data.Display
import DocExamples.Data.Json
import DocExamples.Data.Key
import DocExamples.Data.Record
import DocExamples.Data.Script
import DocExamples.Discovery.Glob
import DocExamples.Discovery.Search
import DocExamples.Document.Assertion
import DocExamples.Document.Comment
import DocExamples.Document.Expectation
import DocExamples.Document.Fence
import DocExamples.Document.Parse
import DocExamples.Document.Read
import DocExamples.Document.Snippet
import DocExamples.Failure
import DocExamples.Files.Home
import DocExamples.Files.Path
import DocExamples.Files.Tree
import DocExamples.Json.Basic
import DocExamples.Json.Encoding
import DocExamples.Json.Literal
import DocExamples.Json.Reader
import DocExamples.Json.Writer
import DocExamples.Log.Record
import DocExamples.Log.Setup
import DocExamples.Main
import DocExamples.Number.Angle
import DocExamples.Number.Arithmetic
import DocExamples.Number.Double
import DocExamples.Number.Elementary
import DocExamples.Number.Fixed
import DocExamples.Number.Layout
import DocExamples.Number.Limit
import DocExamples.Number.Power
import DocExamples.Number.Shortest
import DocExamples.Number.Whole
import DocExamples.Pattern.Basic
import DocExamples.Pattern.Fault
import DocExamples.Pattern.Matcher
import DocExamples.Pattern.Reader
import DocExamples.Proofs.Config.Guards
import DocExamples.Proofs.Config.Reported
import DocExamples.Proofs.Config.Usable
import DocExamples.Proofs.Console.Line
import DocExamples.Proofs.Data.Rendering
import DocExamples.Proofs.Discovery.Anchored
import DocExamples.Proofs.Discovery.Glob
import DocExamples.Proofs.Discovery.Include
import DocExamples.Proofs.Discovery.Search
import DocExamples.Proofs.Document.Blocks
import DocExamples.Proofs.Document.Comments
import DocExamples.Proofs.Document.Concatenation
import DocExamples.Proofs.Document.Endings
import DocExamples.Proofs.Document.Feed
import DocExamples.Proofs.Document.Fences
import DocExamples.Proofs.Document.Frame
import DocExamples.Proofs.Document.Lines
import DocExamples.Proofs.Document.Location
import DocExamples.Proofs.Document.Opaque
import DocExamples.Proofs.Document.Outline
import DocExamples.Proofs.Document.Outside
import DocExamples.Proofs.Document.Reading
import DocExamples.Proofs.Document.Standing
import DocExamples.Proofs.Document.State
import DocExamples.Proofs.Document.Tags
import DocExamples.Proofs.Document.Values
import DocExamples.Proofs.Document.Walk
import DocExamples.Proofs.Json.Comparison
import DocExamples.Proofs.Json.Literal
import DocExamples.Proofs.Json.Number
import DocExamples.Proofs.Json.Reading
import DocExamples.Proofs.Number.Digits
import DocExamples.Proofs.Number.Double
import DocExamples.Proofs.Number.Notation
import DocExamples.Proofs.Number.Rounding
import DocExamples.Proofs.Number.Shortest
import DocExamples.Proofs.Report.Details
import DocExamples.Proofs.Report.Hint
import DocExamples.Proofs.Report.Verdict
import DocExamples.Proofs.Run.Account
import DocExamples.Proofs.Run.Attempts
import DocExamples.Proofs.Run.Completion
import DocExamples.Proofs.Run.Contexts
import DocExamples.Proofs.Run.Isolation
import DocExamples.Proofs.Run.Report
import DocExamples.Proofs.Sandbox.Exchange
import DocExamples.Proofs.Sandbox.Resolution
import DocExamples.Proofs.Sandbox.Template
import DocExamples.Proofs.Script.Acts
import DocExamples.Proofs.Script.CheckText
import DocExamples.Proofs.Script.Distinctions
import DocExamples.Proofs.Script.Equality
import DocExamples.Proofs.Script.Identity
import DocExamples.Proofs.Script.Literal
import DocExamples.Proofs.Script.Modules
import DocExamples.Proofs.Script.Output
import DocExamples.Proofs.Script.Printing
import DocExamples.Proofs.Script.Quiet
import DocExamples.Proofs.Script.Replies
import DocExamples.Proofs.Script.Requests
import DocExamples.Proofs.Script.Retention.Acts
import DocExamples.Proofs.Script.Retention.Conversions
import DocExamples.Proofs.Script.Retention.Machine
import DocExamples.Proofs.Script.Retention.Native
import DocExamples.Proofs.Script.Retention.Provided
import DocExamples.Report.Details
import DocExamples.Report.Markup
import DocExamples.Report.Terminal
import DocExamples.Report.Text
import DocExamples.Run.Compiler
import DocExamples.Run.Contexts
import DocExamples.Run.Diagnostic
import DocExamples.Run.Engine
import DocExamples.Run.Libraries
import DocExamples.Run.Rehearsal
import DocExamples.Run.Result
import DocExamples.Run.Runner
import DocExamples.Sandbox.Host
import DocExamples.Sandbox.ModuleFile
import DocExamples.Sandbox.Prelude
import DocExamples.Sandbox.Resolver
import DocExamples.Sandbox.Template
import DocExamples.Script.Call
import DocExamples.Script.Change
import DocExamples.Script.Coercion
import DocExamples.Script.Equality
import DocExamples.Script.Evaluation
import DocExamples.Script.Group
import DocExamples.Script.Holder
import DocExamples.Script.JsonReader
import DocExamples.Script.Lookup
import DocExamples.Script.Misuse
import DocExamples.Script.Moment
import DocExamples.Script.Native
import DocExamples.Script.Native.Argument
import DocExamples.Script.Native.Arrays
import DocExamples.Script.Native.Collections
import DocExamples.Script.Native.Escapes
import DocExamples.Script.Native.Making
import DocExamples.Script.Native.Moments
import DocExamples.Script.Native.Numbers
import DocExamples.Script.Native.Objects
import DocExamples.Script.Native.Texts
import DocExamples.Script.Numeral
import DocExamples.Script.Operation
import DocExamples.Script.PatternCheck
import DocExamples.Script.Provided
import DocExamples.Script.Reader
import DocExamples.Script.Routine
import DocExamples.Script.Scope
import DocExamples.Script.Session
import DocExamples.Script.Standard
import DocExamples.Script.State
import DocExamples.Script.Statements
import DocExamples.Script.Steps
import DocExamples.Script.Term
import DocExamples.Script.Thrown
import DocExamples.Script.Token
import DocExamples.Script.Value
import DocExamples.Script.Written
import DocExamples.Service.App
import DocExamples.Service.Request
import DocExamples.Text.Base64
import DocExamples.Text.Blank
import DocExamples.Text.Case
import DocExamples.Text.CodeRange
import DocExamples.Text.Columns
import DocExamples.Text.Digit
import DocExamples.Text.Lines
import DocExamples.Text.Name
import DocExamples.Text.Printable
import DocExamples.Text.Quoted
import DocExamples.Text.Utf8
import DocExamples.Text.Word
import DocExamples.Yaml.BlockText
import DocExamples.Yaml.Cursor
import DocExamples.Yaml.Implicit
import DocExamples.Yaml.Moment
import DocExamples.Yaml.Names
import DocExamples.Yaml.Node
import DocExamples.Yaml.Plain
import DocExamples.Yaml.Quotes
import DocExamples.Yaml.Scalar
import DocExamples.Yaml.Token
import DocExamples.Yaml.Tokens
import DocExamples.Yaml.Tree
import DocExamples.Yaml.Values
