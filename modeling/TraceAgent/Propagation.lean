import TraceAgent.Ident.Span
import TraceAgent.Text.Lowercase
import TraceAgent.Text.Blank
import TraceAgent.Log

/-!
# Trace headers

A trace crosses a process boundary in seven headers:

| header                        | value                                  |
|-------------------------------|----------------------------------------|
| `x-calltrace-txid`            | transaction id                         |
| `x-calltrace-span-id`         | the callee's span id                   |
| `x-calltrace-parent-span-id`  | the caller's span id                   |
| `x-calltrace-flags`           | flags                                  |
| `x-calltrace-parent-app`      | the caller's application name          |
| `x-calltrace-host`            | the host called, when known            |
| `x-calltrace-sampled`         | `s0` when the caller does not sample   |

`HeaderMap` is a carrier: setting a header stores its key lowercased (full Unicode lowercase),
reading one lowercases the key looked up. Keys are kept in byte order.

`RemoteTrace.extract` reads a carrier: `notSampled` when the sampled header, trimmed, is `s0`;
`absent` without a transaction id header; otherwise `resume` when the transaction id, the span
id (required), the parent span id (default none) and the flags (default 0) all read, trimmed, and
`absent` with a debug event when one does not.
-/

namespace TraceAgent

/-- A header carrier: keys in byte order, each at most once. -/
structure HeaderMap where
  entries : List (String × String) := []
  deriving Repr, Inhabited

namespace HeaderMap

/-- Stores `value` under `key` as given, replacing an older value. -/
def insertRaw (h : HeaderMap) (key value : String) : HeaderMap :=
  let rest := h.entries.filter (fun e => e.1 != key)
  let (smaller, larger) := rest.partition (fun e => e.1 < key)
  ⟨smaller ++ [(key, value)] ++ larger⟩

/-- Stores `value` under the lowercase form of `key`. -/
def set (h : HeaderMap) (key value : String) : HeaderMap := h.insertRaw (Text.toLowerFull key) value

/-- Removes the entry stored under exactly `key`. -/
def erase (h : HeaderMap) (key : String) : HeaderMap := ⟨h.entries.filter (fun e => e.1 != key)⟩

/-- The value stored under exactly `key`. -/
def getRaw (h : HeaderMap) (key : String) : Option String :=
  (h.entries.find? (fun e => e.1 == key)).map Prod.snd

/-- The value stored under the lowercase form of `key`. -/
def get (h : HeaderMap) (key : String) : Option String := h.getRaw (Text.toLowerFull key)

/-- The stored keys, in byte order. -/
def keys (h : HeaderMap) : List String := h.entries.map Prod.fst

end HeaderMap

/-- The header names. -/
def txidHeader : String := "x-calltrace-txid"
/-- Header of the callee's span id. -/
def spanIdHeader : String := "x-calltrace-span-id"
/-- Header of the caller's span id. -/
def parentSpanIdHeader : String := "x-calltrace-parent-span-id"
/-- Header of the flags. -/
def flagsHeader : String := "x-calltrace-flags"
/-- Header of the caller's application. -/
def parentAppHeader : String := "x-calltrace-parent-app"
/-- Header of the host called. -/
def hostHeader : String := "x-calltrace-host"
/-- Header marking a caller that does not sample. -/
def sampledHeader : String := "x-calltrace-sampled"

/-- The seven header names, in their fixed order. -/
def headerFields : List String :=
  [txidHeader, spanIdHeader, parentSpanIdHeader, flagsHeader, parentAppHeader, hostHeader, sampledHeader]

/-- What the headers say about the caller. -/
inductive RemoteTrace where
  | absent
  | notSampled
  | resume (traceId : TraceId) (parentApplication : Option String) (host : Option String)
  deriving Repr, Inhabited

namespace RemoteTrace

/-- A header read with a reader after trimming: `none` when absent, an error text naming the
header and quoting the value when unreadable. -/
def readHeader {α : Type} (h : HeaderMap) (name : String) (read : String → Option α) :
    Except TraceError (Option α) :=
  match h.get name with
  | none => .ok none
  | some v =>
    match read (Text.trimBlank v) with
    | some a => .ok (some a)
    | none => .error (.invalidHeader (name ++ ": " ++ Text.quote v))

/-- The caller's trace id, read from the headers. -/
def readTraceId (h : HeaderMap) (txid : String) : Except TraceError TraceId := do
  let tx ← TransactionId.ofString? (Text.trimBlank txid)
  let span ← readHeader h spanIdHeader Decimal.readI64
  let span ← match span with
    | some s => pure s
    | none => throw (.invalidHeader spanIdHeader)
  let parent ← readHeader h parentSpanIdHeader Decimal.readI64
  let flags ← readHeader h flagsHeader Decimal.readU16
  pure ⟨tx, SpanId.ofInt span, SpanId.ofInt (parent.getD (-1)), (flags.getD 0).toUInt16⟩

/-- The remote trace described by a carrier, and the events its reading gave. -/
def extract (h : HeaderMap) : RemoteTrace × List LogEvent :=
  if (h.get sampledHeader).any (fun v => Text.trimBlank v == "s0") then (notSampled, [])
  else
    match h.get txidHeader with
    | none => (absent, [])
    | some txid =>
      match readTraceId h txid with
      | .ok id => (.resume id (h.get parentAppHeader) (h.get hostHeader), [])
      | .error _ => (absent, [LogEvent.dbg "TraceHeaderPropagator.Extract.Malformed"])

end RemoteTrace

/-- Writes the headers of a call out of a recording trace: `next` is the callee's trace id,
`application` the caller's application name. -/
def injectHeaders (h : HeaderMap) (next : TraceId) (application : String) (host : Option String) :
    HeaderMap :=
  let h := h.set txidHeader next.transaction.display
  let h := h.set spanIdHeader next.span.display
  let h := h.set parentSpanIdHeader next.parent.display
  let h := h.set flagsHeader (toString next.flags.toNat)
  let h := h.set parentAppHeader application
  match host with
  | some v => h.set hostHeader v
  | none => h

/-- The header of a call out of a trace that does not sample. -/
def injectNotSampled (h : HeaderMap) : HeaderMap := h.set sampledHeader "s0"

end TraceAgent
