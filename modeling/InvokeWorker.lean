import InvokeWorker.Api.Body
import InvokeWorker.Api.Client
import InvokeWorker.Api.Exchange
import InvokeWorker.Api.Url
import InvokeWorker.Config.Dotenv
import InvokeWorker.Config.Settings
import InvokeWorker.Context.Basic
import InvokeWorker.Context.Build
import InvokeWorker.Context.Scope
import InvokeWorker.Context.Signal
import InvokeWorker.Correlation
import InvokeWorker.Handler.Basic
import InvokeWorker.Handler.Payload
import InvokeWorker.Interpreter
import InvokeWorker.Invoke.Deadline
import InvokeWorker.Invoke.Header
import InvokeWorker.Invoke.HeaderDocument
import InvokeWorker.Invoke.Invocation
import InvokeWorker.Json.Document
import InvokeWorker.Json.Reader
import InvokeWorker.Json.Writer
import InvokeWorker.Log.Failure
import InvokeWorker.Log.Percent
import InvokeWorker.Log.Record
import InvokeWorker.Log.Setup
import InvokeWorker.Log.Template
import InvokeWorker.Main
import InvokeWorker.Number.Double
import InvokeWorker.Number.Fixed
import InvokeWorker.Number.Shortest
import InvokeWorker.Proofs.Calendar
import InvokeWorker.Proofs.Cascade
import InvokeWorker.Proofs.CloseOutcomes
import InvokeWorker.Proofs.ContentTypes
import InvokeWorker.Proofs.ContextActions
import InvokeWorker.Proofs.ContextHistory
import InvokeWorker.Proofs.Deadlines
import InvokeWorker.Proofs.Detached
import InvokeWorker.Proofs.DocumentText
import InvokeWorker.Proofs.DoubleRounding
import InvokeWorker.Proofs.DoubleText
import InvokeWorker.Proofs.ErrorTexts
import InvokeWorker.Proofs.EventCodec
import InvokeWorker.Proofs.FailureContent
import InvokeWorker.Proofs.FailureReport
import InvokeWorker.Proofs.Fatality
import InvokeWorker.Proofs.HeaderNulls
import InvokeWorker.Proofs.Independence
import InvokeWorker.Proofs.InvokeContext
import InvokeWorker.Proofs.InvokeScopes
import InvokeWorker.Proofs.JsonDepth
import InvokeWorker.Proofs.JsonEcho
import InvokeWorker.Proofs.JsonGrammar
import InvokeWorker.Proofs.JsonNames
import InvokeWorker.Proofs.JsonNumerals
import InvokeWorker.Proofs.JsonQuotes
import InvokeWorker.Proofs.LogCorrelation
import InvokeWorker.Proofs.LogLines
import InvokeWorker.Proofs.LoopErrors
import InvokeWorker.Proofs.LoopStates
import InvokeWorker.Proofs.Numerals
import InvokeWorker.Proofs.Observers
import InvokeWorker.Proofs.PayloadText
import InvokeWorker.Proofs.Payloads
import InvokeWorker.Proofs.PlainErrors
import InvokeWorker.Proofs.PostInvokeWait
import InvokeWorker.Proofs.Reasons
import InvokeWorker.Proofs.Recovery
import InvokeWorker.Proofs.Release
import InvokeWorker.Proofs.ReportPayload
import InvokeWorker.Proofs.ReportProtocol
import InvokeWorker.Proofs.Reporting
import InvokeWorker.Proofs.ResultText
import InvokeWorker.Proofs.RunLogic
import InvokeWorker.Proofs.ScopeOrder
import InvokeWorker.Proofs.ScopeTwins
import InvokeWorker.Proofs.Sendable
import InvokeWorker.Proofs.TraceDocument
import InvokeWorker.Proofs.TraceHeaders
import InvokeWorker.Proofs.Utf8Codec
import InvokeWorker.Proofs.WireText
import InvokeWorker.Report.Basic
import InvokeWorker.Report.OfError
import InvokeWorker.Report.Wire
import InvokeWorker.Response.Capability
import InvokeWorker.Response.Encoding
import InvokeWorker.Response.Negotiation
import InvokeWorker.Text.Basic
import InvokeWorker.Text.Blank
import InvokeWorker.Text.Charset
import InvokeWorker.Text.Encoding
import InvokeWorker.Text.LowerCase
import InvokeWorker.Text.Printable
import InvokeWorker.Text.Quoted
import InvokeWorker.Text.Utf8
import InvokeWorker.Time.Instant
import InvokeWorker.Trace
import InvokeWorker.Value.Basic
import InvokeWorker.Value.Encode
import InvokeWorker.Value.Equal
import InvokeWorker.Value.ErrorClass
import InvokeWorker.Value.Lenient
import InvokeWorker.Value.Show
import InvokeWorker.Worker.Basic
import InvokeWorker.Worker.Bootstrap
import InvokeWorker.Worker.Event
import InvokeWorker.Worker.Failure
import InvokeWorker.Worker.Loop
import InvokeWorker.Worker.Session
import InvokeWorker.Yaml.Cursor
import InvokeWorker.Yaml.Reader
import InvokeWorker.Yaml.Scalar
import InvokeWorker.Yaml.Text
