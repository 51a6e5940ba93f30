import Responder.Action.Basic
import Responder.Action.Context
import Responder.Action.Error
import Responder.Action.Execute
import Responder.Action.Filter
import Responder.Action.Payload
import Responder.Action.Situation
import Responder.CommandLine.Options
import Responder.CommandLine.Run
import Responder.Dispatch.Basic
import Responder.Dispatch.Holders
import Responder.Event.Basic
import Responder.Host.Fault
import Responder.Host.Isolated
import Responder.Host.Script
import Responder.Host.Services
import Responder.Host.Status
import Responder.Host.Tree
import Responder.Json.Basic
import Responder.Json.Parser
import Responder.Json.Printer
import Responder.Json.Token
import Responder.Main
import Responder.Numeral.Binary64
import Responder.Numeral.Digits
import Responder.Numeral.Layout
import Responder.Numeral.Power
import Responder.Numeral.Shortest
import Responder.Pattern.Age
import Responder.Pattern.ByteRange
import Responder.Pattern.CaseFold
import Responder.Pattern.Category
import Responder.Pattern.CharSet
import Responder.Pattern.Cursor
import Responder.Pattern.Match
import Responder.Pattern.Named
import Responder.Pattern.Parser
import Responder.Pattern.Property
import Responder.Pattern.Regex
import Responder.Pattern.Script
import Responder.Pattern.ScriptExtension
import Responder.Pattern.Segmentation
import Responder.Pattern.Size
import Responder.Pattern.Switches
import Responder.Pattern.Syntax
import Responder.Proofs.Action.Body
import Responder.Proofs.Action.Effect
import Responder.Proofs.Action.Looking
import Responder.Proofs.Action.Masked
import Responder.Proofs.Action.Scripted
import Responder.Proofs.Action.Settled
import Responder.Proofs.CommandLine.Readiness
import Responder.Proofs.Dispatch.Alike
import Responder.Proofs.Dispatch.Calls
import Responder.Proofs.Dispatch.Cancellation
import Responder.Proofs.Dispatch.Filtered
import Responder.Proofs.Dispatch.Split
import Responder.Proofs.Dispatch.Stopping
import Responder.Proofs.Dispatch.Walk
import Responder.Proofs.Event.Report
import Responder.Proofs.Except
import Responder.Proofs.Json.LiteralText
import Responder.Proofs.Json.Nesting
import Responder.Proofs.Json.NumberText
import Responder.Proofs.Json.RoundTrip
import Responder.Proofs.Json.Strip
import Responder.Proofs.Json.Words
import Responder.Proofs.Numeral.Decimal
import Responder.Proofs.Numeral.Digits
import Responder.Proofs.Runbook.Building
import Responder.Proofs.Runbook.Condition
import Responder.Proofs.Runbook.Secrecy
import Responder.Proofs.Runbook.Trace
import Responder.Proofs.Runbook.Validity
import Responder.Proofs.Template.Absence
import Responder.Proofs.Template.Blame
import Responder.Proofs.Template.Call
import Responder.Proofs.Template.Command
import Responder.Proofs.Template.Cut
import Responder.Proofs.Template.Evaluation
import Responder.Proofs.Template.FloatText
import Responder.Proofs.Template.Grammar
import Responder.Proofs.Template.Integer
import Responder.Proofs.Template.Lookahead
import Responder.Proofs.Template.Opening
import Responder.Proofs.Template.Order
import Responder.Proofs.Template.Path
import Responder.Proofs.Template.Piping
import Responder.Proofs.Template.Place
import Responder.Proofs.Template.Placement
import Responder.Proofs.Template.Reading
import Responder.Proofs.Template.Remainder
import Responder.Proofs.Template.Rendering
import Responder.Proofs.Template.Scan
import Responder.Proofs.Template.Seam
import Responder.Proofs.Template.Source
import Responder.Proofs.Template.Tiling
import Responder.Proofs.Template.Trim
import Responder.Proofs.Template.Written
import Responder.Runbook.Basic
import Responder.Runbook.Build
import Responder.Runbook.Config
import Responder.Runbook.Entry
import Responder.Runbook.File
import Responder.Runbook.Secret
import Responder.Template.Basic
import Responder.Template.Eval
import Responder.Template.Literal
import Responder.Template.Node
import Responder.Template.Parser
import Responder.Template.Pipeline
import Responder.Template.Segment
import Responder.Template.Token
import Responder.Text.Blank
import Responder.Text.Letter
import Responder.Text.Lossy
import Responder.Text.Normal
import Responder.Text.NormalTable
import Responder.Text.Quoted
import Responder.Text.Ranges
import Responder.Text.Table
import Responder.Text.Visible
import Responder.Text.Wording
import Responder.Url.Basic
import Responder.Url.Direction
import Responder.Url.Domain
import Responder.Url.DomainTable
import Responder.Url.Host
import Responder.Url.Joiner
import Responder.Url.Percent
import Responder.Url.Punycode
import Responder.Yaml.Cursor
import Responder.Yaml.Node
import Responder.Yaml.Scalar
import Responder.Yaml.Token
