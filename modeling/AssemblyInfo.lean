import AssemblyInfo.Main
import AssemblyInfo.Value.Same
import AssemblyInfo.Proofs.Text.Line
import AssemblyInfo.Proofs.Text.Pattern
import AssemblyInfo.Proofs.ParseResult.Lines
import AssemblyInfo.Proofs.Declaration.Line
import AssemblyInfo.Proofs.Folded.Insertion
import AssemblyInfo.Proofs.Json.Printable
import AssemblyInfo.Proofs.Model.Insertion
import AssemblyInfo.Proofs.Settings.Typed
import AssemblyInfo.Proofs.Model.Lines
import AssemblyInfo.Proofs.Declaration.Invocation
import AssemblyInfo.Proofs.Encoding.SourceText
import AssemblyInfo.Proofs.FileSystem.Extends
import AssemblyInfo.Proofs.ParseResult.Load
import AssemblyInfo.Proofs.Settings.Declared
import AssemblyInfo.Proofs.Settings.OneLine
import AssemblyInfo.Proofs.Settings.Regeneration
import AssemblyInfo.Proofs.Settings.Save
import AssemblyInfo.Proofs.Encoding.SourceForm
import AssemblyInfo.Proofs.ParseResult.Encoded
import AssemblyInfo.Proofs.Encoding.Utf8Lines
import AssemblyInfo.Proofs.ParseResult.Damaged
import AssemblyInfo.Proofs.Model.NameSpaces
import AssemblyInfo.Proofs.Settings.Apart
import AssemblyInfo.Proofs.Declaration.Content
import AssemblyInfo.Proofs.Value.Unbroken
import AssemblyInfo.Proofs.Model.OneLine
import AssemblyInfo.Proofs.Settings.Dialects
import AssemblyInfo.Proofs.Folded.Request
import AssemblyInfo.Proofs.Folded.Change
import AssemblyInfo.Proofs.Value.Key
import AssemblyInfo.Proofs.Folded.Comparison
import AssemblyInfo.Proofs.Folded.NormalForm
import AssemblyInfo.Proofs.Settings.NormalForm
import AssemblyInfo.Proofs.Model.Imports
import AssemblyInfo.Proofs.Settings.Imports
import AssemblyInfo.Proofs.Settings.Mapping
import AssemblyInfo.Proofs.Model.Operation
import AssemblyInfo.Proofs.CommandLine.Run
import AssemblyInfo.Proofs.CommandLine.RoundTrip
import AssemblyInfo.Proofs.Declaration.Grammar
import AssemblyInfo.Proofs.Declaration.Discovery
import AssemblyInfo.Proofs.FileSystem.Place
import AssemblyInfo.Proofs.Session.History
import AssemblyInfo.Proofs.Settings.Creation
import AssemblyInfo.Proofs.CommandLine.Creation
import AssemblyInfo.Proofs.Declaration.Trailing
import AssemblyInfo.Proofs.Settings.Structured
import AssemblyInfo.Proofs.Json.Grammar
import AssemblyInfo.Proofs.Json.Shaped
import AssemblyInfo.Proofs.Json.Fragment
import AssemblyInfo.Proofs.Calendar.Shown
import AssemblyInfo.Proofs.Text.Quoted
import AssemblyInfo.Proofs.Json.Enumeration
import AssemblyInfo.Proofs.Json.Cycle
import AssemblyInfo.Proofs.Model.Refusal
import AssemblyInfo.Proofs.Settings.Root
import AssemblyInfo.Proofs.Settings.Rereading
import AssemblyInfo.Proofs.ParseResult.Breaks
import AssemblyInfo.Proofs.Settings.QuotedNames
import AssemblyInfo.Proofs.Dialect.Selection
import AssemblyInfo.Proofs.CommandLine.Arrangement
