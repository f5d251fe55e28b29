import RequestTracing.Session.Command
import RequestTracing.Proofs.Lookup
import RequestTracing.Proofs.Scope.Ambient
import RequestTracing.Proofs.Scope.Stack
import RequestTracing.Proofs.Scope.Run
import RequestTracing.Proofs.Propagation.B3
import RequestTracing.Proofs.Json.Reader
import RequestTracing.Proofs.Json.Tokens
import RequestTracing.Proofs.Json.RoundTrip
import RequestTracing.Proofs.Span.Reachable
import RequestTracing.Proofs.Span.Report
import RequestTracing.Proofs.Recorder.Chain
import RequestTracing.Proofs.Recorder.Report
import RequestTracing.Proofs.Recorder.Effect
import RequestTracing.Proofs.Recorder.Run
import RequestTracing.Proofs.Propagation.SingleHeader
import RequestTracing.Proofs.Scope.Nested
import RequestTracing.Proofs.Trace.Flags
import RequestTracing.Proofs.Tracer.Decision
import RequestTracing.Proofs.Recorder.Faithful
import RequestTracing.Proofs.Session.Faithful
import RequestTracing.Proofs.Recorder.Orphans
import RequestTracing.Proofs.Session.Orphans
import RequestTracing.Proofs.Propagation.PartHeaders
import RequestTracing.Proofs.Sampling.RateLimiter
import RequestTracing.Proofs.Scope.Strict
import RequestTracing.Proofs.Trace.Baggage
import RequestTracing.Proofs.Tracer.Baggage
import RequestTracing.Proofs.Propagation.Baggage
import RequestTracing.Proofs.Recorder.SharedClock
import RequestTracing.Proofs.Tracer.Run
import RequestTracing.Proofs.Tracer.Ending
import RequestTracing.Proofs.Scope.CorrelatedProgram
import RequestTracing.Proofs.Scope.CorrelatedRun
import RequestTracing.Proofs.Scope.Room
import RequestTracing.Proofs.Session.ScopedSpans
import RequestTracing.Proofs.Recorder.Beginnings
import RequestTracing.Proofs.Tracer.Creation
import RequestTracing.Proofs.Tracer.Switch
import RequestTracing.Proofs.Tracer.Beginnings
import RequestTracing.Proofs.Trace.Heap
import RequestTracing.Proofs.Tracer.Inheritance
import RequestTracing.Proofs.Tracer.Apart
import RequestTracing.Proofs.Propagation.Exposure
import RequestTracing.Proofs.Tracer.Departures
import RequestTracing.Proofs.Tracer.Sink
import RequestTracing.Proofs.Tracer.SharedSpan
import RequestTracing.Proofs.Scope.Decorations
import RequestTracing.Proofs.Sampling.Rule
import RequestTracing.Proofs.Tracer.RequestSampling
import RequestTracing.Proofs.Tracer.HopChain
import RequestTracing.Proofs.Propagation.Usable
import RequestTracing.Proofs.Tracer.Checked
import RequestTracing.Proofs.Tracer.Recorded
import RequestTracing.Proofs.Tracer.Validity
import RequestTracing.Proofs.Recorder.Live
import RequestTracing.Proofs.Tracer.SameSpan
import RequestTracing.Proofs.Scope.Overflow
import RequestTracing.Proofs.Scope.CopiedFields
import RequestTracing.Proofs.Propagation.Canonical
import RequestTracing.Proofs.Trace.Debug
import RequestTracing.Proofs.Span.Written
import RequestTracing.Proofs.Span.WellFormed
import RequestTracing.Proofs.Trace.BaggageHistory
import RequestTracing.Proofs.Span.Tags
import RequestTracing.Proofs.Sampling.DecisionLoop
import RequestTracing.Proofs.Sampling.Counting
import RequestTracing.Proofs.Propagation.Layers
import RequestTracing.Proofs.Span.Inline
import RequestTracing.Proofs.Trace.Forms
