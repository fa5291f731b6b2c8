import TraceAgent.Doc.Basic
import TraceAgent.Decimal.Notation
import TraceAgent.Decimal.Read
import TraceAgent.Text.Escaped
import TraceAgent.Text.Quoted
import TraceAgent.Text.Lowercase
import TraceAgent.Error
import TraceAgent.Ident.Transaction
import TraceAgent.Ident.Span
import TraceAgent.Record
import TraceAgent.Policy
import TraceAgent.Doc.Write
import TraceAgent.Log
import TraceAgent.Sampler
import TraceAgent.IdSource
import TraceAgent.Text.Blank
import TraceAgent.Config
import TraceAgent.Export.BatchConfig
import TraceAgent.Propagation
import TraceAgent.Protocol.Input
import TraceAgent.Protocol.Labels
import TraceAgent.Protocol.Shapes
import TraceAgent.Protocol.Probe
import TraceAgent.Export.Pipeline
import TraceAgent.Protocol.ProcessorRun
import TraceAgent.Export.Exporter
import TraceAgent.Export.Simple
import TraceAgent.Export.Batch
import TraceAgent.Span.Event
import TraceAgent.Span.Stack
import TraceAgent.Span.State
import TraceAgent.Agent.Objects
import TraceAgent.Intercept.Spec
import TraceAgent.Agent.World
import TraceAgent.Agent.Spans
import TraceAgent.Agent.Traces
import TraceAgent.Agent.Context
import TraceAgent.Agent.Async
import TraceAgent.Agent.Scopes
import TraceAgent.Agent.Drop
import TraceAgent.Intercept.Run
import TraceAgent.Scenario.Render
import TraceAgent.Scenario.Debug
import TraceAgent.Scenario.Setup
import TraceAgent.Scenario.Spec
import TraceAgent.Scenario.Handles
import TraceAgent.Scenario.Record
import TraceAgent.Scenario.Ops
import TraceAgent.Scenario.Run
import TraceAgent.Protocol.Respond
import TraceAgent.Proofs.Runs
import TraceAgent.Proofs.Holds.Ledger
import TraceAgent.Proofs.Holds.Invariant
import TraceAgent.Proofs.Holds.Steps
import TraceAgent.Proofs.Holds.Operations
import TraceAgent.Proofs.Holds.HandOver
import TraceAgent.Proofs.Holds.Accounting
import TraceAgent.Proofs.Scopes.Slots
import TraceAgent.Proofs.Scopes.Frame
import TraceAgent.Proofs.Scopes.Gates
import TraceAgent.Proofs.Calls.Tree
import TraceAgent.Proofs.Calls.Writing
import TraceAgent.Proofs.Headers.RoundTrip
import TraceAgent.Proofs.Stack.Logical
import TraceAgent.Proofs.Stack.Refinement
import TraceAgent.Proofs.Export.Delivery
import TraceAgent.Proofs.Chains.Detached
import TraceAgent.Proofs.Chains.Store
import TraceAgent.Proofs.Chains.Starts
import TraceAgent.Proofs.Holds.Resume
import TraceAgent.Proofs.Ident.TransactionText
import TraceAgent.Proofs.Headers.Extract
import TraceAgent.Proofs.Traces.Unsampled
import TraceAgent.Proofs.Traces.Closing
import TraceAgent.Proofs.Traces.EntryPoint
import TraceAgent.Proofs.Calls.Recording
import TraceAgent.Proofs.Calls.RootSpan
import TraceAgent.Proofs.Sampling.Counting
import TraceAgent.Proofs.Calls.Dispatch
import TraceAgent.Proofs.Ident.Roots
import TraceAgent.Proofs.Stack.Metadata
import TraceAgent.Proofs.Span.Offers
import TraceAgent.Proofs.Span.Shared
import TraceAgent.Proofs.Async.EndPoints
import TraceAgent.Proofs.Async.Branch
import TraceAgent.Proofs.Ident.AsyncIds
import TraceAgent.Proofs.Async.Scripts
import TraceAgent.Proofs.Async.FanIn
import TraceAgent.Proofs.Async.Joining
