import TraceAgent.Record
import TraceAgent.Policy
import TraceAgent.Propagation
import TraceAgent.Agent.Objects

/-!
# Interceptors and scripted handlers

An interceptor is a pair of hooks run around an intercepted call. Four kinds come with the
library and compose:

* an **entry point** starts a trace when a call enters the application (only the outermost
  entry point of a chain does) and closes it when the call returns;
* a **span event** interceptor records one frame per call on the sampled trace of the chain;
* an **async end point** resumes the trace of an async context where a continuation runs;
* a **scoped** (`gated`) interceptor runs its delegate only at the nesting level of a scope that its
  policy selects.

What each of them records beyond the defaults is told by a handler. Handlers here are scripts: a
tag and lists of actions (`Action`) run in the handler's hooks. A fifth kind, the **journal**,
notes each hook in the journal and runs its actions.

An intercepted call is an `Invocation`: a target and arguments, each a text, a number, a header
map, an async context or nothing. It finishes with an `Outcome`: a returned text, an error, or
neither when the call panicked.
-/

namespace TraceAgent

/-- One step of a scripted handler. -/
inductive Action where
  | journal (text : String)
  | attrArg (index : Nat)
  | attr (a : Attr)
  | outcome
  | rpc (s : String)
  | remoteAddress (s : String)
  | destinationId (s : String)
  | endPoint (s : String)
  | api (d : MethodDescriptor)
  | asyncAs (name : String)
  | debug
  | fail (text : String)
  | failStatic
  | panic (text : String)
  | panicStatic
  | panicAny
  | nothing
  deriving Inhabited

/-- How a scripted entry point starts its trace. -/
inductive CreateMode where
  | fresh
  | fromHeaders
  | disabled
  | fail
  | failStatic
  deriving DecidableEq, Inhabited

/-- A scripted handler. A plain handler keeps every default and records nothing of its own. -/
structure Handler where
  tag : String
  plain : Bool := false
  create : CreateMode := .fresh
  before : List Action := []
  after : List Action := []
  contextArg : Option Nat := none
  deriving Inhabited

namespace Handler

/-- The debug form: `PlainHandler` or `Handler(tag)`. -/
def debug (h : Handler) : String := if h.plain then "PlainHandler" else "Handler(" ++ h.tag ++ ")"

end Handler

/-- An interceptor. -/
inductive Interceptor where
  | entryPoint (api : MethodDescriptor) (serviceType : ServiceType) (handler : Handler)
  | spanEvent (api : MethodDescriptor) (serviceType : ServiceType) (handler : Handler)
  | asyncEndPoint (api : MethodDescriptor) (handler : Handler)
  | gated (scope : String) (policy : ExecutionPolicy) (delegate : Interceptor)
  | journal (tag : String) (before after : List Action)
  deriving Inhabited

namespace Interceptor

/-- The debug form. -/
def debug : Interceptor → String
  | entryPoint api st h =>
    "EntryPointInterceptor \x7b descriptor: " ++ api.debug ++ ", service_type: " ++ st.debug ++
      ", handler: " ++ h.debug ++ " \x7d"
  | spanEvent api st h =>
    "SpanEventInterceptor \x7b descriptor: " ++ api.debug ++ ", service_type: " ++ st.debug ++
      ", handler: " ++ h.debug ++ " \x7d"
  | asyncEndPoint api h =>
    "AsyncEndPointInterceptor \x7b descriptor: " ++ api.debug ++ ", handler: " ++ h.debug ++ " \x7d"
  | gated scope policy delegate =>
    "ScopedInterceptor \x7b scope: InterceptorScope \x7b name: " ++ Text.quote scope ++ " \x7d, policy: " ++
      policy.debug ++ ", delegate: " ++ delegate.debug ++ " \x7d"
  | journal tag _ _ => "Journal(" ++ tag ++ ")"

end Interceptor

/-- A value passed to an intercepted call. -/
inductive CallValue where
  | unit
  | text (s : String)
  | number (n : UInt32)
  | headers (h : HeaderMap)
  | async (a : AsyncRef)
  deriving Inhabited

/-- An intercepted call: its receiver and arguments. -/
structure Invocation where
  target : CallValue := .unit
  args : List CallValue := []
  deriving Inhabited

namespace Invocation

/-- Argument `i` if it is a text. -/
def textArg? (inv : Invocation) (i : Nat) : Option String :=
  match inv.args[i]? with
  | some (.text s) => some s
  | _ => none

/-- Argument `i` if it is a header map. -/
def headersArg? (inv : Invocation) (i : Nat) : Option HeaderMap :=
  match inv.args[i]? with
  | some (.headers h) => some h
  | _ => none

/-- Argument `i` if it is an async context. -/
def asyncArg? (inv : Invocation) (i : Nat) : Option AsyncRef :=
  match inv.args[i]? with
  | some (.async a) => some a
  | _ => none

/-- The target if it is an async context. -/
def asyncTarget? (inv : Invocation) : Option AsyncRef :=
  match inv.target with
  | .async a => some a
  | _ => none

/-- The target if it is a text. -/
def textTarget? (inv : Invocation) : Option String :=
  match inv.target with
  | .text s => some s
  | _ => none

/-- The debug form `Invocation { args: n, .. }`. -/
def debug (inv : Invocation) : String := "Invocation \x7b args: " ++ toString inv.args.length ++ ", .. \x7d"

end Invocation

/-- How an intercepted call finished. -/
inductive Outcome where
  | returned (s : String)
  | failed (e : ExceptionInfo)
  | unwound
  deriving Inhabited

namespace Outcome

/-- The error of a failed call. -/
def error? : Outcome → Option ExceptionInfo
  | failed e => some e
  | _ => none

/-- Whether the call returned a value. -/
def hasResult : Outcome → Bool
  | returned _ => true
  | _ => false

/-- The debug form `Outcome { returned: b, error: None }` or `… Some("text") }`. -/
def debug (o : Outcome) : String :=
  let err := match o.error? with
    | some e => "Some(" ++ Text.quote e.message ++ ")"
    | none => "None"
  "Outcome \x7b returned: " ++ (if o.hasResult then "true" else "false") ++ ", error: " ++ err ++ " \x7d"

/-- The journal text: `returned s`, `failed message` or `unwound`. -/
def journalText : Outcome → String
  | returned s => "returned " ++ s
  | failed e => "failed " ++ e.message
  | unwound => "unwound"

end Outcome

end TraceAgent
