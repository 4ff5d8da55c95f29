import StubVector.Text.Letter
import StubVector.Text.Blank
import StubVector.Text.Lines
import StubVector.Text.Numeral
import StubVector.Text.Quoted
import StubVector.Text.Lowercase
import StubVector.Text.DecimalDigit
import StubVector.Pipeline.Cursor
import StubVector.Json.Reader
import StubVector.Dump
import StubVector.HeaderFile
import StubVector.Arguments
import StubVector.Command
import StubVector.Golden.Check
import StubVector.Golden.Refresh
import StubVector.FileTree.Setup
import StubVector.Main
import StubVector.Proofs.Text.Letters
import StubVector.Proofs.Definition.Grammar
import StubVector.Proofs.Definition.RoundTrip
import StubVector.Proofs.Definition.Terminated
import StubVector.Proofs.Fragment.Routine
import StubVector.Proofs.Fragment.Listing
import StubVector.Proofs.Fragment.Vector
import StubVector.Proofs.Fragment.Statements
import StubVector.Proofs.Pipeline.Refusal
import StubVector.Proofs.Pipeline.Delivery
import StubVector.Proofs.Charset.Utf8
import StubVector.Proofs.FileTree.Writing
import StubVector.Proofs.Arguments.Separator
import StubVector.Proofs.Command.Outcome
import StubVector.Proofs.Json.RoundTrip
import StubVector.Proofs.Dump.Encoding
import StubVector.Proofs.Charset.Stored
import StubVector.Proofs.HeaderFile.Stored
import StubVector.Proofs.Arguments.Given
import StubVector.Proofs.Command.Call
import StubVector.Proofs.Command.Agreement
import StubVector.Proofs.HeaderFile.Reading
import StubVector.Proofs.Fragment.Output
import StubVector.Proofs.Pipeline.Append
import StubVector.Proofs.Pipeline.Letters
import StubVector.Proofs.Arguments.Rows
import StubVector.Proofs.Command.Arrangement
import StubVector.Proofs.FileTree.Below
import StubVector.Proofs.Golden.Refreshed
import StubVector.Proofs.Golden.Loading
import StubVector.Proofs.Golden.Passing
import StubVector.Proofs.Golden.WellFormed
import StubVector.Proofs.Golden.Report
import StubVector.Proofs.Fragment.Displacement
import StubVector.Proofs.Dump.Sources
import StubVector.Proofs.FileTree.Standing
import StubVector.Proofs.Golden.Refreshing
import StubVector.Proofs.FileTree.Listing
import StubVector.Proofs.Glob.Selected
import StubVector.Proofs.Golden.Discovered
