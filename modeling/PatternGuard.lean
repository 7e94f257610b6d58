import PatternGuard.Config
import PatternGuard.Guard.Create
import PatternGuard.Guard.Session
import PatternGuard.Hazard
import PatternGuard.Json
import PatternGuard.Log
import PatternGuard.Number
import PatternGuard.Number.Shortest
import PatternGuard.Proofs.Config
import PatternGuard.Proofs.Glob.Clear
import PatternGuard.Proofs.Glob.Match
import PatternGuard.Proofs.Glob.OnePass
import PatternGuard.Proofs.Glob.Reading
import PatternGuard.Proofs.Glob.Translate
import PatternGuard.Proofs.Guard.Create
import PatternGuard.Proofs.Guard.Disclosure
import PatternGuard.Proofs.Guard.Echo
import PatternGuard.Proofs.Guard.Glob
import PatternGuard.Proofs.Guard.Padding
import PatternGuard.Proofs.Guard.Pending
import PatternGuard.Proofs.Guard.Returns
import PatternGuard.Proofs.Guard.Session
import PatternGuard.Proofs.Guard.Test
import PatternGuard.Proofs.Guard.Trace
import PatternGuard.Proofs.Hazard.Depth
import PatternGuard.Proofs.Hazard.Nesting
import PatternGuard.Proofs.Hazard.QuickCheck
import PatternGuard.Proofs.Hazard.Shape
import PatternGuard.Proofs.Hazard.Verdict
import PatternGuard.Proofs.Json.RoundTrip
import PatternGuard.Proofs.Json.Text
import PatternGuard.Proofs.Log.Calendar
import PatternGuard.Proofs.Log.Fields
import PatternGuard.Proofs.Log.Line
import PatternGuard.Proofs.Log.Paths
import PatternGuard.Proofs.Log.Redaction
import PatternGuard.Proofs.Log.Timestamp
import PatternGuard.Proofs.Modifier
import PatternGuard.Proofs.Number
import PatternGuard.Proofs.Regex.ItemFaults
import PatternGuard.Proofs.Regex.Origin
import PatternGuard.Proofs.Regex.Plain
import PatternGuard.Proofs.Regex.ReaderFaults
import PatternGuard.Proofs.Regex.Reading
import PatternGuard.Proofs.Regex.Run
import PatternGuard.Proofs.Regex.Search
import PatternGuard.Proofs.Regex.Wording
import PatternGuard.Proofs.Search.Board
import PatternGuard.Proofs.Search.Relay
import PatternGuard.Proofs.Search.Transport
import PatternGuard.Proofs.Text.Escape
import PatternGuard.Proofs.Text.Unescape
import PatternGuard.Proofs.Text.Word
import PatternGuard.Proofs.Value
import PatternGuard.Regex.Escape
import PatternGuard.Regex.Fault
import PatternGuard.Regex.Flag
import PatternGuard.Regex.Node
import PatternGuard.Regex.Pattern
import PatternGuard.Regex.Reader
import PatternGuard.Regex.Run
import PatternGuard.Regex.Source
import PatternGuard.Regex.Step
import PatternGuard.Search
import PatternGuard.Text.Quoted
import PatternGuard.Transform
import PatternGuard.Unicode.Case
import PatternGuard.Unicode.Category
import PatternGuard.Value
