import TraceAgent.Ident.Transaction

/-!
# Span, trace and async ids

* `SpanId`: a signed 64-bit number; `-1` means "no span" (`SpanId.none`).
* `TraceId`: a transaction id with the span's id, its parent's id and sixteen bits of flags. A
  trace id is a root when its parent is `SpanId.none`.
* `AsyncId` and `LocalAsyncId`: the id of a hand-off to another call chain, and of one branch that
  continues it, written `async.branch`.

Main statements: `TraceId.child` keeps the transaction and the flags and makes the old span the
parent (`child_parent`, `child_transaction`).
-/

namespace TraceAgent

/-- A span id. -/
structure SpanId where
  value : Int64
  deriving Repr, DecidableEq, Inhabited

namespace SpanId

/-- The id that stands for no span. -/
def none : SpanId := ⟨-1⟩

/-- Whether this is the id of no span. -/
def isNone (s : SpanId) : Bool := s == none

/-- The signed value. -/
def toInt (s : SpanId) : Int := s.value.toInt

/-- The decimal text of the id. -/
def display (s : SpanId) : String := toString s.toInt

/-- A span id of a signed number (wrapping into 64 bits). -/
def ofInt (n : Int) : SpanId := ⟨Int64.ofInt n⟩

end SpanId

/-- A trace id: where one span sits in a transaction. -/
structure TraceId where
  transaction : TransactionId
  span : SpanId
  parent : SpanId
  flags : UInt16
  deriving Repr, DecidableEq, Inhabited

namespace TraceId

/-- Whether the trace id starts its transaction (it has no parent). -/
def isRoot (t : TraceId) : Bool := t.parent.isNone

/-- The root trace id of a transaction, with the given span id. -/
def root (tx : TransactionId) (span : SpanId) : TraceId := ⟨tx, span, SpanId.none, 0⟩

/-- The trace id of a callee: same transaction and flags, the new span `fresh`, this span as its
parent. -/
def child (t : TraceId) (fresh : SpanId) : TraceId := ⟨t.transaction, fresh, t.span, t.flags⟩

@[simp] theorem child_parent (t : TraceId) (fresh : SpanId) : (t.child fresh).parent = t.span := rfl

@[simp] theorem child_transaction (t : TraceId) (fresh : SpanId) :
    (t.child fresh).transaction = t.transaction := rfl

@[simp] theorem child_flags (t : TraceId) (fresh : SpanId) : (t.child fresh).flags = t.flags := rfl

/-- The debug form, with span ids written by `spanText`. -/
def debug (spanText : SpanId → String) (t : TraceId) : String :=
  "TraceId \x7b transaction_id: " ++ t.transaction.debug ++ ", span_id: " ++ spanText t.span ++
    ", parent_span_id: " ++ spanText t.parent ++ ", flags: " ++ toString t.flags.toNat ++ " \x7d"

end TraceId

/-- The id of a hand-off of work to another call chain. -/
structure AsyncId where
  value : UInt32
  deriving Repr, DecidableEq, Inhabited

/-- One branch continuing a hand-off: the hand-off's id and the branch number. -/
structure LocalAsyncId where
  asyncId : AsyncId
  sequence : UInt32
  deriving Repr, DecidableEq, Inhabited

namespace LocalAsyncId

/-- The text form `async.branch`. -/
def display (l : LocalAsyncId) : String :=
  toString l.asyncId.value.toNat ++ "." ++ toString l.sequence.toNat

/-- The debug form `LocalAsyncId { async_id: AsyncId(a), sequence: s }`. -/
def debug (l : LocalAsyncId) : String :=
  "LocalAsyncId \x7b async_id: AsyncId(" ++ toString l.asyncId.value.toNat ++ "), sequence: " ++
    toString l.sequence.toNat ++ " \x7d"

end LocalAsyncId

end TraceAgent
