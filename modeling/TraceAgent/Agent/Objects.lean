import TraceAgent.Span.Stack
import TraceAgent.Policy

/-!
# The objects of a tracing context

A tracing context keeps its objects in tables and refers to them by number:

* a **trace** (`TraceObj`) is the live handle of one hop of a transaction. A recording trace
  writes into a span under construction through its own call stack; a branch resumed from an
  async context also carries its branch id. A disabled trace records nothing. A trace can be
  closed once, and it keeps named nesting counters of its own (trace scopes).
* an **async context** (`AsyncObj`) is a token for resuming a trace on another call chain. A
  recording one knows the span and the hand-off id and owns pending holds on the span (`Holds`);
  it is shared by all its clones (`refs` counts them) and gives its holds back when the last clone
  goes.
* a **call chain** keeps, per thread, the trace bound to it and, per interceptor scope, a depth and
  one attachment (`ChainLocal`, `ScopeSlot`). The state of a chain can be detached from its thread
  and carried elsewhere.

Main statement: `ChainLocal.isEmpty_default` — a fresh chain holds nothing.
-/

namespace TraceAgent

/-- A trace's entry in the context's table. -/
abbrev TraceRef := Nat

/-- A span's entry in the context's table. -/
abbrev SpanRef := Nat

/-- An async context's entry in the context's table. -/
abbrev AsyncRef := Nat

/-- Whether a trace records, and into what. -/
inductive TraceKind where
  | recording (span : SpanRef) (branch : Option LocalAsyncId) (stack : CallStack)
  | disabled (isAsync : Bool)
  deriving Inhabited

/-- A named nesting counter carried by a trace. -/
structure TraceScope where
  name : String
  depth : Nat := 0
  deriving Inhabited

/-- A trace. -/
structure TraceObj where
  kind : TraceKind
  closed : Bool := false
  scopes : List TraceScope := []
  deriving Inhabited

namespace TraceObj

/-- The span the trace writes into. -/
def span? (t : TraceObj) : Option SpanRef :=
  match t.kind with
  | .recording s _ _ => some s
  | .disabled _ => none

/-- Whether the trace records. -/
def canSample (t : TraceObj) : Bool := t.span?.isSome

/-- The branch id of a resumed branch. -/
def branch? (t : TraceObj) : Option LocalAsyncId :=
  match t.kind with
  | .recording _ b _ => b
  | .disabled _ => none

/-- Whether the trace was resumed from an async context. -/
def isAsync (t : TraceObj) : Bool :=
  match t.kind with
  | .recording _ b _ => b.isSome
  | .disabled a => a

/-- Open frames, counted ones included. -/
def depth (t : TraceObj) : Nat :=
  match t.kind with
  | .recording _ _ s => s.depth
  | .disabled _ => 0

/-- The trace with its call stack changed; a disabled trace is left alone. -/
def mapStack (t : TraceObj) (f : CallStack → CallStack) : TraceObj :=
  match t.kind with
  | .recording s b st => { t with kind := .recording s b (f st) }
  | .disabled _ => t

/-- The trace scope with the given name. -/
def scope? (t : TraceObj) (name : String) : Option TraceScope :=
  t.scopes.find? (fun s => s.name == name)

end TraceObj

/-- The pending holds an async context owns on its span. -/
structure Holds where
  /-- Whether the context keeps the span alive. -/
  pinned : Bool := true
  /-- The hold taken when the context was created, until the first branch finishes. -/
  creation : Bool := true
  started : Nat := 0
  finished : Nat := 0
  deriving Inhabited

namespace Holds

/-- Nothing is owed any more: the creation hold is back and every branch finished. -/
def settled (h : Holds) : Bool := !h.creation && h.started == h.finished

end Holds

/-- What an async context resumes. -/
inductive AsyncKind where
  | recording (span : SpanRef) (traceId : TraceId) (asyncId : AsyncId) (branches : UInt32) (holds : Holds)
  | disabled
  deriving Inhabited

/-- An async context with the number of its live clones. -/
structure AsyncObj where
  kind : AsyncKind
  refs : Nat := 1
  deriving Inhabited

/-- A value kept in a scope's attachment slot. -/
inductive Attachment where
  | text (s : String)
  | count (n : UInt64)
  | trace (t : TraceRef)
  /-- A value whose removal runs a scripted check of the chain (see `Agent.Hook`): the scope it
  enters and leaves, and an async context it tries to resume. -/
  | hook (scope : String) (async : Option AsyncRef)
  deriving Inhabited

/-- The depth and attachment of one interceptor scope on one chain. -/
structure ScopeSlot where
  depth : Nat := 0
  attachment : Option Attachment := none
  deriving Inhabited

/-- Everything bound to one call chain. -/
structure ChainLocal where
  trace : Option TraceRef := none
  slots : List (Nat × ScopeSlot) := []
  deriving Inhabited

namespace ChainLocal

/-- Whether the chain holds nothing. -/
def isEmpty (c : ChainLocal) : Bool := c.trace.isNone && c.slots.isEmpty

/-- The slot of a scope. -/
def slot? (c : ChainLocal) (scope : Nat) : Option ScopeSlot := c.slots.lookup scope

/-- Replaces or adds the slot of a scope, keeping slots ordered by scope number. -/
def setSlot (c : ChainLocal) (scope : Nat) (s : ScopeSlot) : ChainLocal :=
  let rest := c.slots.filter (fun p => p.1 != scope)
  { c with slots := (rest ++ [(scope, s)]).mergeSort (fun a b => a.1 ≤ b.1) }

/-- Removes the slot of a scope. -/
def eraseSlot (c : ChainLocal) (scope : Nat) : ChainLocal :=
  { c with slots := c.slots.filter (fun p => p.1 != scope) }

theorem isEmpty_default : (default : ChainLocal).isEmpty = true := rfl

end ChainLocal

/-- The thread a piece of work runs on: a named call chain, or the host thread that owns the run
and takes it down. -/
inductive Thread where
  | chain (name : String)
  | host
  deriving DecidableEq, Inhabited

end TraceAgent
